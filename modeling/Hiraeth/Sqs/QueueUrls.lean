import Hiraeth.Sqs.QueueCreation
import Mathlib.Data.List.TakeWhile

/-!
# Queue URLs, taken apart again

The URL of a queue is made of the `Host` header, the account and the name.  The
parser of URLs gives the account and the name back, unless the header brings a path
of its own or the account is none that fits into a path.  The region is not written
down: it is the region of the request that uses the URL, unless the host begins with
`sqs.`, and then it is the label that follows.

## Main definitions

* `UrlLibrary.Lawful` — what is assumed about the parts of the URL parser
* `hostAuthority`, `hostRest` — a `Host` header as the URL parser reads it
* `NamesRegion`, `KeepsPath` — the two conditions on a `Host` header

## Main results

* `parseQueueUrl_queueUrl` — when a queue URL is taken apart into what it was made of
* `queueUrls_resolve` — when the URLs that are answered lead to their queues
-/

namespace Hiraeth

open Interaction Program

/-! ### Text that stands in a path -/

/-- A character that neither ends a segment or a path nor is dropped. -/
def isPathChar (c : Char) : Bool :=
  !isSlash c && !endsPath c && !isIgnoredInUrl c

/-- A segment that stands for this directory or for the one above. -/
def isDots (segment : Text) : Bool :=
  isSingleDot segment || isDoubleDot segment

/-- **What is assumed of the URL parser**: an empty host is an error, a letter of a
name is written as it is, and what a character is written as neither ends a segment
nor makes one of dots. -/
structure UrlLibrary.Lawful (library : UrlLibrary) : Prop where
  emptyAuthority : library.parseAuthority [] = none
  letter : ∀ c, isNameChar c = true ∨ c = '.' → library.encodePathChar c = [c]
  pathChar : ∀ c, isPathChar c = true → ∀ d ∈ library.encodePathChar c, isPathChar d = true
  dots : ∀ segment : Text, isDots segment = false →
    isDots (segment.flatMap library.encodePathChar) = false

/-- **A text that is one segment of a path**, and is written as it is. -/
structure PlainSegment (library : UrlLibrary) (segment : Text) : Prop where
  pathChars : ∀ c ∈ segment, isPathChar c = true
  notDots : isDots segment = false
  encoded : segment.flatMap library.encodePathChar = segment

section Segments

variable {library : UrlLibrary} {path segments : List Text} {segment account name : Text}

theorem isPathChar_iff {c : Char} :
    isPathChar c = true ↔ isSlash c = false ∧ endsPath c = false ∧ isIgnoredInUrl c = false := by
  simp [isPathChar, and_assoc]

/-- A letter of a name stands in a path. -/
theorem isPathChar_of_letter {c : Char} (letter : isNameChar c = true ∨ c = '.') :
    isPathChar c = true := by
  rcases letter with isLetter | rfl
  · have notSpecial : ∀ d : Char, isNameChar d = false → c ≠ d := by
      rintro d isNot rfl
      rw [isLetter] at isNot
      cases isNot
    simp [isPathChar, isSlash, endsPath, isIgnoredInUrl, notSpecial '/' (by decide),
      notSpecial '\\' (by decide), notSpecial '?' (by decide), notSpecial '#' (by decide),
      notSpecial '\t' (by decide), notSpecial '\n' (by decide), notSpecial '\r' (by decide)]
  · decide

/-- The letters of a valid name. -/
theorem ValidQueueName.letter (valid : ValidQueueName name) :
    ∀ c ∈ name, isNameChar c = true ∨ c = '.' := by
  obtain ⟨stem, rfl | rfl, letters⟩ := valid.letters
  · exact fun c member => Or.inl (letters c member)
  · intro c member
    rcases List.mem_append.mp member with inStem | inSuffix
    · exact Or.inl (letters c inStem)
    · have suffix : (".fifo" : Text).all (fun c => isNameChar c || c = '.') = true := by
        decide
      simpa using List.all_eq_true.mp suffix c inSuffix

/-- Segments of dots have a percent sign in them, or nothing but periods. -/
theorem spelled_of_isDots (dots : isDots segment = true) :
    '%' ∈ toAsciiLowercase segment ∨ ∀ c ∈ toAsciiLowercase segment, c = '.' := by
  have spelled : [("." : Text), ("%2e" : Text), (".." : Text), (".%2e" : Text), ("%2e." : Text),
      ("%2e%2e" : Text)].all (fun spelling => spelling.contains '%' || spelling.all (· = '.')) =
        true := by
    decide
  have isSpelled : toAsciiLowercase segment ∈ [("." : Text), ("%2e" : Text), (".." : Text),
      (".%2e" : Text), ("%2e." : Text), ("%2e%2e" : Text)] := by
    rcases Bool.or_eq_true_iff.mp dots with single | double
    · exact List.mem_append_left [(".." : Text), (".%2e" : Text), ("%2e." : Text),
        ("%2e%2e" : Text)] (List.contains_iff_mem.mp single)
    · exact List.mem_append_right [("." : Text), ("%2e" : Text)]
        (List.contains_iff_mem.mp double)
  rcases Bool.or_eq_true_iff.mp (List.all_eq_true.mp spelled _ isSpelled) with percent | periods
  · exact Or.inl (List.contains_iff_mem.mp percent)
  · exact Or.inr fun c member => of_decide_eq_true (List.all_eq_true.mp periods c member)

/-- Letters are not made of dots. -/
theorem isDots_of_letters (letters : ∀ c ∈ segment, isNameChar c = true ∨ c = '.') {c : Char}
    (member : c ∈ segment) (isLetter : isNameChar c = true) : isDots segment = false := by
  refine Bool.eq_false_iff.mpr fun dots => ?_
  rcases spelled_of_isDots dots with percent | periods
  · refine not_mem_toAsciiLowercase (fun given => ?_) (by decide) percent
    exact absurd (letters '%' given) (by decide)
  · have lowered := periods c.toLower (List.mem_map_of_mem member)
    rcases toLower_cases c with same | ⟨low, -⟩
    · rw [same] at lowered
      subst lowered
      exact absurd isLetter (by decide)
    · rw [lowered] at low
      exact absurd low (by decide)

/-- A valid name has a letter in it. -/
theorem ValidQueueName.exists_letter (valid : ValidQueueName name) :
    ∃ c ∈ name, isNameChar c = true := by
  obtain ⟨stem, rfl | rfl, letters⟩ := valid.letters
  · obtain ⟨c, rest, rfl⟩ := List.exists_cons_of_ne_nil valid.nonempty
    exact ⟨c, List.mem_cons_self, letters c List.mem_cons_self⟩
  · exact ⟨'f', List.mem_append_right stem (by decide), by decide⟩

/-- **A valid name is one segment.** -/
theorem ValidQueueName.plainSegment (lawful : library.Lawful) (valid : ValidQueueName name) :
    PlainSegment library name := by
  obtain ⟨c, member, isLetter⟩ := valid.exists_letter
  refine ⟨fun c member => isPathChar_of_letter (valid.letter c member),
    isDots_of_letters valid.letter member isLetter, ?_⟩
  have letters := valid.letter
  clear valid member isLetter
  induction name with
  | nil => rfl
  | cons c rest inductionHypothesis =>
      rw [List.flatMap_cons, lawful.letter c (letters c List.mem_cons_self),
        inductionHypothesis fun d member => letters d (List.mem_cons_of_mem c member)]
      rfl

/-- The directories of a path. -/
def pushAll (library : UrlLibrary) (path segments : List Text) : List Text :=
  segments.foldl (fun path segment => pushSegment library path segment false) path

/-- Directories, and then the last segment. -/
theorem normalizeSegments_concat {last : Text} :
    normalizeSegments library path (segments ++ [last]) =
      pushSegment library (pushAll library path segments) last true := by
  induction segments generalizing path with
  | nil => rfl
  | cons segment segments inductionHypothesis =>
      obtain ⟨next, rest, split⟩ := List.exists_cons_of_ne_nil
        (List.append_ne_nil_of_right_ne_nil segments (List.cons_ne_nil last []))
      rw [List.cons_append, split, normalizeSegments, ← split, inductionHypothesis]
      rfl

theorem pushSegment_plain (plain : PlainSegment library segment) {last : Bool} :
    pushSegment library path segment last = path ++ [segment] := by
  obtain ⟨single, double⟩ := Bool.or_eq_false_iff.mp plain.notDots
  rw [pushSegment, double, single, plain.encoded]
  rfl

/-- What is written for a segment that is not made of dots. -/
def Written (library : UrlLibrary) (segment : Text) : Prop :=
  ∃ piece : Text, (∀ c ∈ piece, isPathChar c = true) ∧ isDots piece = false ∧
    segment = piece.flatMap library.encodePathChar

theorem written_nil : Written library [] :=
  ⟨[], fun _ member => absurd member List.not_mem_nil, rfl, rfl⟩

/-- Whatever a segment stands for, what is pushed was written. -/
theorem written_pushSegment (written : ∀ pushed ∈ path, Written library pushed)
    (pathChars : ∀ c ∈ segment, isPathChar c = true) {last : Bool} :
    ∀ pushed ∈ pushSegment library path segment last, Written library pushed := by
  have empty : ∀ pushed ∈ (if last then [([] : Text)] else []), Written library pushed := by
    intro pushed member
    cases last with
    | false => exact absurd member List.not_mem_nil
    | true => exact List.mem_singleton.mp member ▸ written_nil
  intro pushed member
  rw [pushSegment] at member
  by_cases double : isDoubleDot segment
  · rw [if_pos double] at member
    rcases List.mem_append.mp member with old | added
    · exact written pushed (List.dropLast_subset path old)
    · exact empty pushed added
  rw [if_neg double] at member
  by_cases single : isSingleDot segment
  · rw [if_pos single] at member
    rcases List.mem_append.mp member with old | added
    · exact written pushed old
    · exact empty pushed added
  · rw [if_neg single] at member
    rcases List.mem_append.mp member with old | added
    · exact written pushed old
    · obtain rfl := List.mem_singleton.mp added
      exact ⟨segment, pathChars, Bool.or_eq_false_iff.mpr ⟨Bool.eq_false_iff.mpr single,
        Bool.eq_false_iff.mpr double⟩, rfl⟩

/-- **Every segment of a path was written.** -/
theorem written_normalizeSegments (written : ∀ pushed ∈ path, Written library pushed)
    (pathChars : ∀ segment ∈ segments, ∀ c ∈ segment, isPathChar c = true) :
    ∀ pushed ∈ normalizeSegments library path segments, Written library pushed := by
  induction path, segments using normalizeSegments.induct library with
  | case1 path => exact written
  | case2 path segment => exact written_pushSegment written (pathChars _ List.mem_cons_self)
  | case3 path segment next segments inductionHypothesis =>
      exact inductionHypothesis
        (written_pushSegment written (pathChars _ List.mem_cons_self))
        fun later member => pathChars later (List.mem_cons_of_mem _ member)

theorem written_pushAll (written : ∀ pushed ∈ path, Written library pushed)
    (pathChars : ∀ segment ∈ segments, ∀ c ∈ segment, isPathChar c = true) :
    ∀ pushed ∈ pushAll library path segments, Written library pushed := by
  induction segments generalizing path with
  | nil => exact written
  | cons segment segments inductionHypothesis =>
      exact inductionHypothesis
        (written_pushSegment written (pathChars _ List.mem_cons_self))
        fun later member => pathChars later (List.mem_cons_of_mem _ member)

/-- What was written is neither made of dots nor does it end a path. -/
theorem Written.notDots (lawful : library.Lawful) (written : Written library segment) :
    isDots segment = false := by
  obtain ⟨piece, -, notDots, rfl⟩ := written
  exact lawful.dots piece notDots

theorem Written.pathChars (lawful : library.Lawful) (written : Written library segment) :
    ∀ c ∈ segment, isPathChar c = true := by
  obtain ⟨piece, pathChars, -, rfl⟩ := written
  intro c member
  obtain ⟨d, given, isEncoded⟩ := List.mem_flatMap.mp member
  exact lawful.pathChar d (pathChars d given) c isEncoded

/-- **Directories and one more segment leave that segment alone** exactly when the
segment is plain and the directories lead nowhere. -/
theorem pushAll_concat_eq (lawful : library.Lawful)
    (pathChars : ∀ segment ∈ segments, ∀ c ∈ segment, isPathChar c = true)
    (own : ∀ c ∈ account, isPathChar c = true) :
    pushAll library [] (segments ++ [account]) = [account] ↔
      PlainSegment library account ∧ pushAll library [] segments = [] := by
  have written := @written_pushAll library [] segments
    (fun _ member => absurd member List.not_mem_nil) pathChars
  have last : pushAll library [] (segments ++ [account]) =
      pushSegment library (pushAll library [] segments) account false := by
    rw [pushAll, List.foldl_append]
    rfl
  rw [last]
  constructor
  · intro isAlone
    have isWritten : Written library account := by
      refine @written_pushSegment _ _ _ written own false account ?_
      rw [isAlone]
      exact List.mem_singleton_self account
    have notDots := isWritten.notDots lawful
    obtain ⟨single, double⟩ := Bool.or_eq_false_iff.mp notDots
    rw [pushSegment, double, single] at isAlone
    have isAlone : pushAll library [] segments ++ [account.flatMap library.encodePathChar] =
      [] ++ [account] := isAlone
    obtain ⟨nowhere, same⟩ := List.append_inj' isAlone rfl
    exact ⟨⟨own, notDots, List.head_eq_of_cons_eq same⟩, nowhere⟩
  · rintro ⟨plain, nowhere⟩
    rw [pushSegment_plain plain, nowhere]
    rfl

end Segments

/-! ### The parts of a URL -/

section Parts

variable {library : UrlLibrary} {host account name region : Text}

/-- A host as the URL parser reads it. -/
def hostText (host : Text) : Text :=
  (host.filter fun c => !isIgnoredInUrl c).dropWhile isSlash

/-- A character of an authority. -/
def isAuthorityChar (c : Char) : Bool :=
  !isSlash c && !endsPath c

/-- What the URL parser takes for user information, host and port. -/
def hostAuthority (host : Text) : Text :=
  (hostText host).takeWhile isAuthorityChar

/-- The path that a host brings, and what follows it. -/
def hostRest (host : Text) : Text :=
  (hostText host).dropWhile isAuthorityChar

/-- The segments of that path. -/
def hostSegments (host : Text) : List Text :=
  if hostRest host = [] then []
  else (((hostRest host).takeWhile fun c => !endsPath c).drop 1).splitOnP isSlash

/-- **The host names no other region**: it is accepted, and when it begins with
`sqs.` the next label is the region. -/
def NamesRegion (library : UrlLibrary) (host region : Text) : Prop :=
  ∃ parsed, library.parseAuthority (hostAuthority host) = some parsed ∧
    ∀ labels, parsed = ("sqs." : Text) ++ labels → labels.takeWhile (· ≠ '.') = region

/-- **The path is the account and the name.**  The host brings a path that leads
nowhere, or none, and the account is one segment; or else the host brings a path that
already is the account and the name, and cuts off the rest. -/
def KeepsPath (library : UrlLibrary) (host account name : Text) : Prop :=
  if (hostRest host).any endsPath then
    normalizeSegments library [] (hostSegments host) = [account, name]
  else PlainSegment library account ∧ pushAll library [] (hostSegments host) = []

/-- The host names no other region exactly when the region is the one that is read. -/
theorem hostRegion_eq_iff {parsed : Text} :
    hostRegion parsed region = region ↔
      ∀ labels, parsed = ("sqs." : Text) ++ labels → labels.takeWhile (· ≠ '.') = region := by
  unfold hostRegion
  cases stripped : stripPrefix "sqs." parsed with
  | none =>
      refine iff_of_true rfl fun labels shape => ?_
      rw [stripPrefix_eq_some.mpr shape] at stripped
      cases stripped
  | some labels =>
      obtain rfl := stripPrefix_eq_some.mp stripped
      constructor
      · intro same other shape
        rw [← List.append_cancel_left shape]
        exact same
      · intro every
        exact every labels rfl

/-- Text without dropped characters at its ends is not trimmed. -/
theorem trimBy_eq_self {drop : Char → Bool} {first last : Char} {middle : Text}
    (keepsFirst : drop first = false) (keepsLast : drop last = false) :
    trimBy drop (first :: middle ++ [last]) = first :: middle ++ [last] := by
  rw [trimBy, List.cons_append, List.dropWhile_cons_of_neg (by simp [keepsFirst]),
    List.reverse_cons, List.reverse_append, List.reverse_singleton, List.singleton_append,
    List.cons_append, List.dropWhile_cons_of_neg (by simp [keepsLast])]
  simp

theorem filter_pathChars {text : Text} (pathChars : ∀ c ∈ text, isPathChar c = true) :
    (text.filter fun c => !isIgnoredInUrl c) = text := by
  refine List.filter_eq_self.mpr fun c member => ?_
  rw [(isPathChar_iff.mp (pathChars c member)).2.2]
  rfl

/-- The letters of a name are no control characters. -/
theorem letter_visible {c : Char} (letter : isNameChar c = true ∨ c = '.') : 32 < c.toNat := by
  have controls : (List.range 33).all (fun code => !isNameChar (Char.ofNat code) &&
      Char.ofNat code ≠ '.') = true := by
    decide
  by_contra low
  have isControl := List.all_eq_true.mp controls c.toNat (List.mem_range.mpr (by omega))
  have same : Char.ofNat c.toNat = c := Char.ofNat_toNat c
  rw [same] at isControl
  rcases letter with isLetter | isPeriod
  · rw [isLetter] at isControl
    cases isControl
  · rw [isPeriod] at isControl
    exact absurd isControl (by decide)

/-- The parts of a queue URL, in order. -/
theorem queueUrl_eq : queueUrl host account name =
    ("http://" : Text) ++ (host ++ '/' :: (account ++ '/' :: name)) :=
  (List.append_assoc _ _ _).trans (List.append_assoc _ _ _)

/-- **What a queue URL is read as**: only tabs and newlines are dropped. -/
theorem cleanUrl_queueUrl (valid : ValidQueueName name) :
    cleanUrl (queueUrl host account name) = ("http://" : Text) ++
      ((host.filter fun c => !isIgnoredInUrl c) ++
        '/' :: ((account.filter fun c => !isIgnoredInUrl c) ++ '/' :: name)) := by
  have same : (name.filter fun c => !isIgnoredInUrl c) = name :=
    filter_pathChars fun c member => isPathChar_of_letter (valid.letter c member)
  have scheme : ("http://" : Text) = 'h' :: ("ttp://" : Text) := by
    decide
  have untrimmed : trimBy (fun c => c.toNat ≤ 32) (queueUrl host account name) =
      queueUrl host account name := by
    obtain ⟨front, last, rfl⟩ : ∃ front last, name = front ++ [last] :=
      ⟨_, _, (List.dropLast_append_getLast valid.nonempty).symm⟩
    have visible := letter_visible (valid.letter last (by simp))
    have shape : queueUrl host account (front ++ [last]) =
        'h' :: (("ttp://" : Text) ++ (host ++ '/' :: (account ++ '/' :: front))) ++ [last] := by
      rw [queueUrl_eq, scheme, List.cons_append, List.cons_append, List.append_assoc,
        List.append_assoc, List.cons_append, List.append_assoc, List.cons_append]
    rw [shape]
    exact trimBy_eq_self (by decide) (decide_eq_false (by omega))
  have ownSlash : ∀ text : Text, ('/' :: text).filter (fun c => !isIgnoredInUrl c) =
      '/' :: text.filter fun c => !isIgnoredInUrl c := fun text =>
    List.filter_cons_of_pos (by decide)
  have ownScheme : (("http://" : Text).filter fun c => !isIgnoredInUrl c) = ("http://" : Text) := by
    decide
  rw [cleanUrl, untrimmed, queueUrl_eq, List.filter_append, List.filter_append, ownSlash,
    List.filter_append, ownSlash, same, ownScheme]

/-- What follows the scheme of a queue URL. -/
def urlInput (host account name : Text) : Text :=
  ((host.filter fun c => !isIgnoredInUrl c) ++
    '/' :: ((account.filter fun c => !isIgnoredInUrl c) ++ '/' :: name)).dropWhile isSlash

/-- The segments of the path of some input. -/
def pathOf (input : Text) : List Text :=
  (((input.dropWhile isAuthorityChar).takeWhile fun c => !endsPath c).drop 1).splitOnP isSlash

/-- A queue URL is taken apart into what it was made of when the host, the region and
the path are the right ones. -/
theorem parseQueueUrl_eq_some (valid : ValidQueueName name) :
    parseQueueUrl library (queueUrl host account name) region = some ⟨name, region, account⟩ ↔
      (∃ parsed, library.parseAuthority ((urlInput host account name).takeWhile isAuthorityChar) =
        some parsed ∧ hostRegion parsed region = region) ∧
      normalizeSegments library [] (pathOf (urlInput host account name)) = [account, name] := by
  have isHttp : parseUrl library (queueUrl host account name) =
      (library.parseAuthority ((urlInput host account name).takeWhile isAuthorityChar)).map
        fun parsed => ⟨some parsed,
          some (normalizeSegments library [] (pathOf (urlInput host account name)))⟩ := by
    rw [parseUrl, cleanUrl_queueUrl valid, stripPrefix_eq_some.mpr rfl]
    rfl
  rw [parseQueueUrl, isHttp]
  cases library.parseAuthority ((urlInput host account name).takeWhile isAuthorityChar) with
  | none => simp
  | some parsed =>
      simp only [Option.map_some, Option.bind_eq_bind, Option.bind_some, Option.some.injEq]
      generalize normalizeSegments library [] (pathOf (urlInput host account name)) = segments
      rcases segments with _ | ⟨first, _ | ⟨second, _ | ⟨third, rest⟩⟩⟩
      · simp
      · simp
      · simp only [Option.pure_def, Option.some.injEq, QueueId.mk.injEq, exists_eq_left',
          List.cons.injEq, and_true]
        tauto
      · simp

/-- A character that is not taken ends what is taken. -/
theorem takeWhile_append_stop {keep : Char → Bool} {c : Char} (stops : keep c = false)
    (left right : Text) : (left ++ c :: right).takeWhile keep = left.takeWhile keep := by
  induction left with
  | nil => exact List.takeWhile_cons_of_neg (by simp [stops])
  | cons d left inductionHypothesis =>
      rw [List.cons_append, List.takeWhile_cons, List.takeWhile_cons, inductionHypothesis]

theorem dropWhile_append_stop {cut : Char → Bool} {c : Char} (stops : cut c = false)
    (left right : Text) : (left ++ c :: right).dropWhile cut = left.dropWhile cut ++ c :: right := by
  induction left with
  | nil => exact List.dropWhile_cons_of_neg (by simp [stops])
  | cons d left inductionHypothesis =>
      rw [List.cons_append, List.dropWhile_cons, List.dropWhile_cons, inductionHypothesis]
      split <;> rfl

/-- The host, and then the path that was put behind it. -/
theorem urlInput_of_hostText (isText : hostText host ≠ []) :
    urlInput host account name = hostText host ++
      '/' :: ((account.filter fun c => !isIgnoredInUrl c) ++ '/' :: name) := by
  rw [urlInput, List.dropWhile_append]
  exact if_neg fun empty => isText (List.isEmpty_iff.mp empty)

/-- **The authority of a queue URL is the one of its host.** -/
theorem authority_urlInput (isText : hostText host ≠ []) :
    (urlInput host account name).takeWhile isAuthorityChar = hostAuthority host := by
  rw [urlInput_of_hostText isText]
  exact takeWhile_append_stop (by decide) _ _

/-- **The path of a queue URL begins with the one that the host brings.** -/
theorem pathOf_urlInput (isText : hostText host ≠ []) :
    pathOf (urlInput host account name) =
      if (hostRest host).any endsPath then hostSegments host
      else hostSegments host ++ (((account.filter fun c => !isIgnoredInUrl c) ++
        '/' :: name).takeWhile fun c => !endsPath c).splitOnP isSlash := by
  rw [pathOf, urlInput_of_hostText isText, dropWhile_append_stop (by decide)]
  show (((hostRest host ++ '/' :: _).takeWhile fun c => !endsPath c).drop 1).splitOnP isSlash = _
  generalize (account.filter fun c => !isIgnoredInUrl c) ++ '/' :: name = tail
  split_ifs with cuts
  · obtain ⟨c, member, ends⟩ := List.any_eq_true.mp cuts
    have stops : (!endsPath c) = false := by
      rw [ends]
      rfl
    rw [hostSegments, if_neg (List.ne_nil_of_mem member)]
    obtain ⟨before, after, shape⟩ := List.append_of_mem member
    rw [shape, List.append_assoc, List.cons_append, takeWhile_append_stop stops,
      takeWhile_append_stop stops]
  · have all : ∀ c ∈ hostRest host, (!endsPath c) = true := by
      simpa using cuts
    rw [List.takeWhile_append_of_pos all, List.takeWhile_cons_of_pos (by decide), hostSegments,
      List.takeWhile_eq_self_iff.mpr all]
    cases rest : hostRest host with
    | nil => rfl
    | cons first others =>
        have slash : isSlash '/' = true := by
          decide
        rw [if_neg (List.cons_ne_nil first others), List.cons_append, List.drop_one,
          List.drop_one, List.tail_cons, List.tail_cons, List.splitOnP_append_cons _ _ slash]

/-- Nothing in a queue URL is dropped twice. -/
theorem not_ignored_of_mem_urlInput (valid : ValidQueueName name) :
    ∀ c ∈ urlInput host account name, isIgnoredInUrl c = false := by
  intro c member
  rcases List.mem_append.mp (List.dropWhile_subset isSlash member) with inHost | inRest
  · simpa using (List.mem_filter.mp inHost).2
  rcases List.mem_cons.mp inRest with rfl | inRest
  · decide
  rcases List.mem_append.mp inRest with inAccount | inName
  · simpa using (List.mem_filter.mp inAccount).2
  rcases List.mem_cons.mp inName with rfl | inName
  · decide
  · exact (isPathChar_iff.mp (isPathChar_of_letter (valid.letter c inName))).2.2

/-- The characters of a path. -/
theorem pathChars_pathOf {input : Text} (clean : ∀ c ∈ input, isIgnoredInUrl c = false) :
    ∀ segment ∈ pathOf input, ∀ c ∈ segment, isPathChar c = true := by
  intro segment member c own
  have inPath := List.mem_of_mem_drop (mem_of_mem_splitOnP member own)
  have inInput := List.dropWhile_subset isAuthorityChar (List.takeWhile_subset _ inPath)
  refine isPathChar_iff.mpr ⟨?_, ?_, clean c inInput⟩
  · exact Bool.eq_false_iff.mpr fun splits => not_mem_of_mem_splitOnP member splits own
  · simpa using List.mem_takeWhile_imp inPath

/-- An account that is read from a queue URL is made of characters of a path. -/
theorem pathChars_of_normalizeSegments (lawful : library.Lawful) (valid : ValidQueueName name)
    (reads : normalizeSegments library [] (pathOf (urlInput host account name)) = [account, name]) :
    ∀ c ∈ account, isPathChar c = true := by
  have written := @written_normalizeSegments library [] (pathOf (urlInput host account name))
    (fun _ member => absurd member List.not_mem_nil)
    (pathChars_pathOf (not_ignored_of_mem_urlInput valid))
  rw [reads] at written
  exact (written account List.mem_cons_self).pathChars lawful

/-- The path behind a text that is all authority. -/
theorem pathOf_append {front back : Text} (own : ∀ c ∈ front, isPathChar c = true)
    (ends : ∀ c ∈ back.head?, isAuthorityChar c = false) :
    pathOf (front ++ back) = ((back.takeWhile fun c => !endsPath c).drop 1).splitOnP isSlash := by
  have all : ∀ c ∈ front, isAuthorityChar c = true := by
    intro c member
    obtain ⟨notSlash, notEnd, -⟩ := isPathChar_iff.mp (own c member)
    rw [isAuthorityChar, notSlash, notEnd]
    rfl
  have stays : back.dropWhile isAuthorityChar = back := by
    cases back with
    | nil => rfl
    | cons c back => exact List.dropWhile_cons_of_neg (by simp [ends c rfl])
  rw [pathOf, List.dropWhile_append_of_pos all, stays]

theorem dropWhile_isSlash {text : Text} (own : ∀ c ∈ text, isPathChar c = true) :
    text.dropWhile isSlash = text := by
  cases text with
  | nil => rfl
  | cons c text =>
      have notSlash := (isPathChar_iff.mp (own c List.mem_cons_self)).1
      exact List.dropWhile_cons_of_neg (by simp [notSlash])

/-- **Without an authority of its own, the path is too short.** -/
theorem pathOf_of_hostText_nil (lawful : library.Lawful) (valid : ValidQueueName name)
    (noText : hostText host = []) :
    normalizeSegments library [] (pathOf (urlInput host account name)) ≠ [account, name] := by
  intro reads
  have own := pathChars_of_normalizeSegments lawful valid reads
  have plain := valid.plainSegment lawful
  have input : urlInput host account name = (account ++ '/' :: name).dropWhile isSlash := by
    rw [hostText] at noText
    rw [urlInput, filter_pathChars own, List.dropWhile_append, noText]
    rfl
  rw [input] at reads
  cases account with
  | nil =>
      have isName : ([] ++ '/' :: name : Text).dropWhile isSlash = name ++ [] := by
        rw [List.append_nil]
        exact dropWhile_isSlash plain.pathChars
      rw [isName, pathOf_append plain.pathChars fun c given => by simp at given] at reads
      cases reads
  | cons c rest =>
      have notSlash : ¬ isSlash c = true := by
        simp [(isPathChar_iff.mp (own c List.mem_cons_self)).1]
      rw [List.cons_append, List.dropWhile_cons_of_neg notSlash, ← List.cons_append,
        pathOf_append own (by rintro _ ⟨⟩; decide)] at reads
      have all : ∀ c ∈ '/' :: name, (!endsPath c) = true := by
        intro c member
        rcases List.mem_cons.mp member with rfl | inName
        · decide
        · rw [(isPathChar_iff.mp (plain.pathChars c inName)).2.1]
          rfl
      have alone : name.splitOnP isSlash = [name] :=
        List.splitOnP_eq_singleton fun c member => (isPathChar_iff.mp (plain.pathChars c member)).1
      rw [List.takeWhile_eq_self_iff.mpr all, List.drop_one, List.tail_cons, alone,
        normalizeSegments, pushSegment_plain plain] at reads
      cases reads

/-- The characters of the path that a host brings. -/
theorem pathChars_hostSegments :
    ∀ segment ∈ hostSegments host, ∀ c ∈ segment, isPathChar c = true := by
  have clean : ∀ c ∈ hostText host, isIgnoredInUrl c = false := by
    intro c member
    simpa using (List.mem_filter.mp (List.dropWhile_subset isSlash member)).2
  intro segment member
  rw [hostSegments] at member
  split_ifs at member
  · exact absurd member List.not_mem_nil
  · exact pathChars_pathOf clean segment member

/-- The path of a queue URL when the host does not cut it off. -/
theorem normalizeSegments_eq_iff (lawful : library.Lawful) (valid : ValidQueueName name)
    (own : ∀ c ∈ account, isPathChar c = true) :
    normalizeSegments library [] (hostSegments host ++
      (((account.filter fun c => !isIgnoredInUrl c) ++ '/' :: name).takeWhile
        fun c => !endsPath c).splitOnP isSlash) = [account, name] ↔
      PlainSegment library account ∧ pushAll library [] (hostSegments host) = [] := by
  have plain := valid.plainSegment lawful
  have alone : ∀ {text : Text}, (∀ c ∈ text, isPathChar c = true) →
      text.splitOnP isSlash = [text] := fun own =>
    List.splitOnP_eq_singleton fun c member => (isPathChar_iff.mp (own c member)).1
  have all : ∀ c ∈ account ++ '/' :: name, (!endsPath c) = true := by
    intro c member
    have ends : endsPath c = false := by
      rcases List.mem_append.mp member with inAccount | inName
      · exact (isPathChar_iff.mp (own c inAccount)).2.1
      rcases List.mem_cons.mp inName with rfl | inName
      · decide
      · exact (isPathChar_iff.mp (plain.pathChars c inName)).2.1
    rw [ends]
    rfl
  have slash : isSlash '/' = true := by
    decide
  rw [filter_pathChars own, List.takeWhile_eq_self_iff.mpr all,
    List.splitOnP_append_cons _ _ slash, alone own, alone plain.pathChars, ← List.append_assoc,
    normalizeSegments_concat, pushSegment_plain plain,
    ← pushAll_concat_eq lawful pathChars_hostSegments own]
  exact @List.append_left_inj _ _ [account] [name]

/-- **When a queue URL is taken apart into what it was made of.** -/
theorem parseQueueUrl_queueUrl (lawful : library.Lawful) (valid : ValidQueueName name) :
    parseQueueUrl library (queueUrl host account name) region = some ⟨name, region, account⟩ ↔
      NamesRegion library host region ∧ KeepsPath library host account name := by
  rw [parseQueueUrl_eq_some valid]
  by_cases noText : hostText host = []
  · refine iff_of_false (fun both => pathOf_of_hostText_nil lawful valid noText both.2) ?_
    rintro ⟨⟨parsed, accepted, -⟩, -⟩
    rw [hostAuthority, noText, List.takeWhile_nil, lawful.emptyAuthority] at accepted
    cases accepted
  · rw [authority_urlInput noText]
    refine and_congr (exists_congr fun parsed => and_congr_right fun _ => hostRegion_eq_iff) ?_
    have path := @pathOf_urlInput host account name noText
    rw [KeepsPath]
    split_ifs with cuts
    · rw [path, if_pos cuts]
    · constructor
      · intro reads
        have own := pathChars_of_normalizeSegments lawful valid reads
        rw [path, if_neg cuts] at reads
        exact (normalizeSegments_eq_iff lawful valid own).mp reads
      · intro keeps
        rw [path, if_neg cuts]
        exact (normalizeSegments_eq_iff lawful valid keeps.1.pathChars).mpr keeps

/-- **A host of ordinary characters brings no path**, so that any account that is one
segment will do. -/
theorem keepsPath_of_pathChars (own : ∀ c ∈ host, isPathChar c = true)
    (plain : PlainSegment library account) : KeepsPath library host account name := by
  have noRest : hostRest host = [] := by
    rw [hostRest, hostText, filter_pathChars own, dropWhile_isSlash own]
    refine List.dropWhile_eq_nil_iff.mpr fun c member => ?_
    obtain ⟨notSlash, notEnd, -⟩ := isPathChar_iff.mp (own c member)
    rw [isAuthorityChar, notSlash, notEnd]
    rfl
  have noSegments : hostSegments host = [] := if_pos noRest
  rw [KeepsPath, noRest, noSegments]
  exact ⟨plain, rfl⟩

end Parts

/-! ### The URLs that are answered -/

section Answers

variable {library : SqsLibrary} {request : ResolvedRequest} {state : SqsDatabase}
  {queue : SqsQueue} {url : Text}

/-- The queues that the store is asked for when queues are listed: one more than is
answered. -/
def askedQueues (state : SqsDatabase) (request : ResolvedRequest) (payload : ListQueuesRequest) :
    List SqsQueue :=
  state.listQueues request.region request.accountId payload.queueNamePrefix
    (payload.maxResults.map fun maxResults => min (maxResults + 1) 9223372036854775807)
    payload.nextToken

/-- **A URL that a successful request is answered with**, and the queue it is for. -/
inductive Answers (library : SqsLibrary) (request : ResolvedRequest) (state : SqsDatabase) :
    SqsQueue → Text → Prop
  | createQueue {now : Time} {payload : CreateQueueRequest} {response : CreateQueueResponse}
      {final : SqsDatabase} {queue : SqsQueue}
      (handles : Succeeds SqsDatabase.serve ((createQueueAction library now).handle request payload)
        state response final)
      (found : existingQueue final request payload.queueName = some queue) :
      Answers library request state queue response.queueUrl
  | getQueueUrl {payload : GetQueueUrlRequest} {response : GetQueueUrlResponse}
      {final : SqsDatabase} {queue : SqsQueue}
      (handles : Succeeds SqsDatabase.serve ((getQueueUrlAction library).handle request payload)
        state response final)
      (found : state.getQueue payload.queueName request.region
        (payload.queueOwnerAwsAccountId.getD request.accountId) = some queue) :
      Answers library request state queue response.queueUrl
  | listQueues {payload : ListQueuesRequest} {response : ListQueuesResponse}
      {final : SqsDatabase} {queue : SqsQueue} {url : Text}
      (handles : Succeeds SqsDatabase.serve ((listQueuesAction library).handle request payload)
        state response final)
      (listed : (queue, url) ∈ (askedQueues state request payload).zip response.queueUrls) :
      Answers library request state queue url

/-- Whatever creating a queue comes to, the name was valid and the URL is made of
it. -/
theorem url_of_handleCreateQueue {now : Time} {payload : CreateQueueRequest}
    {response : CreateQueueResponse} {final : SqsDatabase}
    (handles : Succeeds SqsDatabase.serve (handleCreateQueue library now request payload) state
      response final) :
    ValidQueueName payload.queueName ∧
      response.queueUrl = queueUrl request.request.host request.accountId payload.queueName := by
  simp only [handleCreateQueue, succeeds_bind, succeeds_liftExcept, succeeds_lift] at handles
  obtain ⟨values, _, ⟨checked, rfl⟩, created, _, -, rest⟩ := handles
  simp only [validateCreateQueue, bind_eq_ok] at checked
  obtain ⟨_, -, _, named, -⟩ := checked
  refine ⟨(validateQueueName_valid named).1, ?_⟩
  rcases created with (_ | _ | _) | _
  · exact absurd rest not_succeeds_throw
  · simp only [confirmExistingQueue, succeeds_bind, succeeds_orFail] at rest
    obtain ⟨found, _, -, rest⟩ := rest
    cases found with
    | none => exact absurd rest not_succeeds_throw
    | some existing =>
        dsimp only at rest
        split_ifs at rest
        · exact congrArg CreateQueueResponse.queueUrl (succeeds_pure.mp rest).1.symm
        · exact absurd rest not_succeeds_throw
  · exact absurd rest not_succeeds_throw
  · obtain ⟨_, _, -, rest⟩ := succeeds_bind.mp rest
    exact congrArg CreateQueueResponse.queueUrl (succeeds_pure.mp rest).1.symm

/-- What is listed beside an item of a page. -/
theorem eq_of_mem_zip_take {α β : Type} {f : α → β} {items : List α} {count : ℕ} {item : α}
    {beside : β} (member : (item, beside) ∈ items.zip ((items.take count).map f)) :
    item ∈ items ∧ beside = f item := by
  induction items generalizing count with
  | nil => exact absurd member List.not_mem_nil
  | cons first items inductionHypothesis =>
      cases count with
      | zero => simp at member
      | succ count =>
          rcases List.mem_cons.mp member with same | later
          · obtain ⟨rfl, rfl⟩ := Prod.mk.inj same
            exact ⟨List.mem_cons_self, rfl⟩
          · obtain ⟨own, isUrl⟩ := inductionHypothesis later
            exact ⟨List.mem_cons_of_mem first own, isUrl⟩

/-- A page is the beginning of what was asked for. -/
theorem exists_pageOfQueues (maxResults : Option ℤ) (queues : List SqsQueue) :
    ∃ count, (pageOfQueues maxResults queues).1 = queues.take count := by
  have whole : queues = queues.take queues.length := List.take_length.symm
  cases maxResults with
  | none => exact ⟨_, whole⟩
  | some maxResults =>
      dsimp only [pageOfQueues]
      split_ifs
      · exact ⟨_, rfl⟩
      · exact ⟨_, whole⟩

/-- **Every URL that is answered is made of its queue**, whose region is the one of
the request. -/
theorem Answers.isUrl (answered : Answers library request state queue url)
    (valid : ∀ row ∈ state.queues.rows, ValidQueueName row.name) :
    url = queueUrl request.request.host queue.accountId queue.name ∧
      queue.region = request.region ∧ ValidQueueName queue.name := by
  cases answered with
  | createQueue handles found =>
      obtain ⟨named, isUrl⟩ := url_of_handleCreateQueue handles
      obtain ⟨-, same⟩ := SqsDatabase.getQueue_eq_some found
      simp only [SqsDatabase.identity, Prod.mk.injEq] at same
      obtain ⟨sameName, sameRegion, sameAccount⟩ := same
      rw [isUrl, sameName, sameAccount]
      exact ⟨rfl, sameRegion, named⟩
  | @getQueueUrl payload response final queue handles found =>
      obtain ⟨member, same⟩ := SqsDatabase.getQueue_eq_some found
      simp only [SqsDatabase.identity, Prod.mk.injEq] at same
      obtain ⟨sameName, sameRegion, sameAccount⟩ := same
      refine ⟨?_, sameRegion, valid queue member⟩
      have handles : Succeeds SqsDatabase.serve (handleGetQueueUrl request payload) state response
        final := handles
      simp only [handleGetQueueUrl, succeeds_bind, succeeds_orFail] at handles
      obtain ⟨_, _, -, answer, _, -, rest⟩ := handles
      cases answer with
      | none => exact absurd rest not_succeeds_throw
      | some _ =>
          obtain ⟨rfl, -⟩ := succeeds_pure.mp rest
          rw [sameName, sameAccount]
  | @listQueues payload response final queue url handles listed =>
      have handles : Succeeds SqsDatabase.serve (handleListQueues request payload) state response
        final := handles
      simp only [handleListQueues, succeeds_bind, succeeds_liftExcept, succeeds_orFail] at handles
      obtain ⟨_, _, ⟨-, rfl⟩, queues, _, asked, rest⟩ := handles
      obtain ⟨isAsked, rfl⟩ := Prod.mk.inj asked
      obtain rfl : askedQueues state request payload = queues := Except.ok.inj isAsked
      obtain ⟨rfl, -⟩ := succeeds_pure.mp rest
      obtain ⟨count, isPage⟩ := exists_pageOfQueues payload.maxResults
        (askedQueues state request payload)
      simp only [isPage] at listed
      obtain ⟨member, rfl⟩ := eq_of_mem_zip_take listed
      obtain ⟨isRow, sameRegion, sameAccount⟩ := SqsDatabase.mem_of_mem_listQueues member
      rw [sameAccount]
      exact ⟨rfl, sameRegion, valid queue isRow⟩

/-- **A URL resolves to a queue**: a later request of the region that uses it finds the
queue with this identity, and no other. -/
def Resolves (library : SqsLibrary) (url : Text) (queue : SqsQueue) : Prop :=
  ∀ later : ResolvedRequest, later.region = queue.region → ∀ state found final,
    Succeeds SqsDatabase.serve (loadQueueFromUrl library later url) state found final ↔
      state = final ∧ state.getQueue queue.name queue.region queue.accountId = some found

/-- The store with this queue alone. -/
def singleQueue (queue : SqsQueue) : SqsDatabase :=
  { SqsDatabase.empty (fun _ => 0) fun _ => [] with queues := ⟨[queue], List.pairwise_singleton _ _⟩ }

/-- A URL resolves to a queue exactly when it is taken apart into the identity of the
queue. -/
theorem resolves_iff : Resolves library url queue ↔
    parseQueueUrl library.url url queue.region =
      some ⟨queue.name, queue.region, queue.accountId⟩ := by
  constructor
  · intro resolves
    have itself : (singleQueue queue).getQueue queue.name queue.region queue.accountId =
        some queue := by
      simp [singleQueue, SqsDatabase.getQueue, RowTable.find]
    obtain ⟨queueId, parsed, asked⟩ := succeeds_loadQueueFromUrl.mp
      ((resolves { userRequest 0 [] with region := queue.region } rfl (singleQueue queue) queue
        (singleQueue queue)).mpr ⟨rfl, itself⟩)
    have found := Except.ok.inj (Prod.mk.inj asked).1
    obtain ⟨-, same⟩ := SqsDatabase.getQueue_eq_some found
    simp only [SqsDatabase.identity, Prod.mk.injEq] at same
    obtain ⟨sameName, sameRegion, sameAccount⟩ := same
    refine Eq.trans parsed (congrArg some ?_)
    rw [sameName, sameRegion, sameAccount]
  · intro parsed later sameRegion state found final
    rw [succeeds_loadQueueFromUrl, sameRegion, parsed]
    constructor
    · rintro ⟨_, ⟨⟩, asked⟩
      obtain ⟨found, rfl⟩ := Prod.mk.inj asked
      exact ⟨rfl, Except.ok.inj found⟩
    · rintro ⟨rfl, found⟩
      exact ⟨_, rfl, congrArg (fun found => (Except.ok found, state)) found⟩

/-- **The URLs that are answered resolve to their queues** exactly when the `Host`
header names no other region and leaves the path alone, in every state that requests
and forms reach together. -/
theorem queueUrls_resolve {ι : Type} [DecidableEq ι] (reads : ReadsEmptyObject library.json)
    (lawful : library.url.Lawful) {tasks : ι → SqsTask}
    {start config : Config sqsStore Unit ι SqsDatabase}
    (begins : ∀ thread, start.threads thread = (tasks thread).program library)
    (valid : QueuesValid library.json start.shared)
    (reachable : Reachable SqsDatabase.serve (fun _ _ => True) start config)
    (answered : Answers library request config.shared queue url) :
    Resolves library url queue ↔
      NamesRegion library.url request.request.host request.region ∧
        KeepsPath library.url request.request.host queue.accountId queue.name := by
  have every : ∀ thread,
      (start.threads thread).AllCalls (SqsCall.WritesValid library.json) := by
    intro thread
    rw [begins]
    exact (coversWrites_valid reads).program (tasks thread)
  have validNow := callsKeep_queuesValid.reachable every valid reachable
  obtain ⟨rfl, sameRegion, validName⟩ := answered.isUrl fun row member =>
    (validNow.1 row member).name
  rw [resolves_iff, parseQueueUrl_queueUrl lawful validName, sameRegion]

end Answers

/-! ### Two hosts -/

/-- A URL library as far as the samples need it: the port is dropped, and nothing in a
path has to be rewritten. -/
def localUrls : UrlLibrary where
  parseAuthority authority := if authority = [] then none else some (authority.takeWhile (· ≠ ':'))
  encodePathChar c := [c]
  parseOther _ := none

theorem localUrls_lawful : localUrls.Lawful where
  emptyAuthority := rfl
  letter _ _ := rfl
  pathChar c isChar d member := List.mem_singleton.mp member ▸ isChar
  dots segment notDots := by
    rw [localUrls, List.flatMap_singleton']
    exact notDots

/-- The library, with these URLs. -/
def localLibrary : SqsLibrary :=
  { emptyObjectLibrary with url := localUrls }

/-- A request that is sent to a host. -/
def requestTo (host : Text) : ResolvedRequest :=
  { userRequest 0 [] with request := { (userRequest 0 []).request with host } }

/-- The queue of the form is found, and the URL is made of the host. -/
theorem answers_requestTo (host : Text) :
    Answers localLibrary (requestTo host) formedConfig.shared formedQueue
      (queueUrl host "000000000000" "orders") := by
  have found : formedConfig.shared.getQueue "orders" "us-east-1" "000000000000" =
      some formedQueue := by
    decide +kernel
  refine @Answers.getQueueUrl localLibrary (requestTo host) formedConfig.shared ⟨"orders", none⟩
    ⟨queueUrl host "000000000000" "orders"⟩ formedConfig.shared formedQueue ?_ found
  exact succeeds_bind.mpr ⟨(), _, succeeds_liftExcept.mpr ⟨by decide +kernel, rfl⟩,
    succeeds_bind.mpr ⟨some formedQueue, _, succeeds_orFail.mpr
      (congrArg (fun found => (Except.ok found, formedConfig.shared)) found),
      succeeds_pure.mpr ⟨rfl, rfl⟩⟩⟩

/-- The URL of the queue at `localhost` resolves to it. -/
theorem resolves_localhost :
    Resolves localLibrary (queueUrl "localhost:4566" "000000000000" "orders") formedQueue := by
  have reads : ReadsEmptyObject localLibrary.json := emptyObjectLibrary_reads
  have noQueues : QueuesValid localLibrary.json formStart.shared := by
    intro queue member
    exact absurd member List.not_mem_nil
  refine (@queueUrls_resolve localLibrary (requestTo "localhost:4566") formedQueue _ Unit _ reads
    localUrls_lawful (fun _ => .createQueueForm 0 ordersForm) formStart formedConfig (fun _ => rfl)
    noQueues (Reachable.play (fun _ _ _ => trivial) .start Config.passes_true)
    (answers_requestTo "localhost:4566")).mpr ⟨?_, ?_⟩
  · refine ⟨"localhost", by decide +kernel, fun labels shape => ?_⟩
    have begins : ("sqs." : Text) <+: ("localhost" : Text) := ⟨labels, shape.symm⟩
    exact absurd begins (by decide +kernel)
  · have host : ("localhost:4566" : Text).all isPathChar = true := by
      decide +kernel
    have account : ("000000000000" : Text).all isPathChar = true := by
      decide +kernel
    exact keepsPath_of_pathChars (List.all_eq_true.mp host)
      ⟨List.all_eq_true.mp account, by decide +kernel, by decide +kernel⟩

/-- **The host may name another region**, and then the URL does not resolve to its
queue. -/
theorem not_resolves_otherRegion :
    Answers localLibrary (requestTo "sqs.us-west-2.localhost") formedConfig.shared formedQueue
      (queueUrl "sqs.us-west-2.localhost" "000000000000" "orders") ∧
    ¬ Resolves localLibrary (queueUrl "sqs.us-west-2.localhost" "000000000000" "orders")
      formedQueue := by
  refine ⟨answers_requestTo _, fun resolves => ?_⟩
  exact absurd (resolves_iff.mp resolves) (by decide +kernel)

end Hiraeth

import Hiraeth.Core.Text
import Hiraeth.Lib.SortedMap

/-!
# Trace spans

A request is traced under its request id.  A context knows the span that encloses it; a
timer is a span that was started, and a record is one that ended.  The fields that link
spans are private to this module, so contexts and timers come about in no other way.

## Main definitions

* `TraceContext`, `TraceSpanTimer`, `TraceSpanRecord` — where a span starts, runs and ends
* `newSpanId` — the id of a span, from the request id and a reading of the clock

## Main results

* `spanIdOf_inj` — the ids of one request are as distinct as the readings
-/

namespace Hiraeth

/-- `DateTime::timestamp_nanos_opt`: the nanoseconds, where an `i64` holds them. -/
def timestampNanosOpt (now : Time) : Option ℤ :=
  if -9223372036854775808 ≤ now ∧ now ≤ 9223372036854775807 then some now else none

/-- The number that a reading of the clock gives a span. -/
def nanosOf (now : Time) : ℤ :=
  (timestampNanosOpt now).getD 0

/-- `i64::to_string`. -/
def integerText (number : ℤ) : Text :=
  if 0 ≤ number then Nat.toDigits 10 number.toNat else '-' :: Nat.toDigits 10 (-number).toNat

/-- The digits of a number determine it. -/
theorem toDigits_inj {left right : ℕ} :
    Nat.toDigits 10 left = Nat.toDigits 10 right ↔ left = right := by
  constructor
  · intro same
    rw [← Nat.ofDigitChars_ten_toDigits (n := left), same, Nat.ofDigitChars_ten_toDigits]
  · rintro rfl
    rfl

/-- The digits of a number do not start with a minus sign. -/
theorem toDigits_ne_minus {number : ℕ} {rest : Text} : Nat.toDigits 10 number ≠ '-' :: rest := by
  intro same
  have isMinus : '-' ∈ Nat.toDigits 10 number := by
    rw [same]
    exact List.mem_cons_self
  exact absurd (Nat.isDigit_of_mem_toDigits (by decide) (by decide) isMinus) (by decide)

/-- An integer is determined by its text. -/
theorem integerText_inj {left right : ℤ} : integerText left = integerText right ↔ left = right := by
  constructor
  · intro same
    unfold integerText at same
    split_ifs at same with leftSign rightSign rightSign
    · have equal := toDigits_inj.mp same
      omega
    · exact absurd same toDigits_ne_minus
    · exact absurd same.symm toDigits_ne_minus
    · have equal := toDigits_inj.mp (List.tail_eq_of_cons_eq same)
      omega
  · rintro rfl
    rfl

/-- The id of a span of this request with this number. -/
def spanIdOf (requestId : Text) (nanos : ℤ) : Text :=
  requestId ++ '-' :: integerText nanos

/-- `new_span_id`. -/
def newSpanId (requestId : Text) (now : Time) : Text :=
  spanIdOf requestId (nanosOf now)

/-- **The ids of one request are as distinct as the readings.** -/
theorem spanIdOf_inj {requestId : Text} {left right : ℤ} :
    spanIdOf requestId left = spanIdOf requestId right ↔ left = right := by
  constructor
  · intro same
    exact integerText_inj.mp (List.tail_eq_of_cons_eq (List.append_cancel_left same))
  · rintro rfl
    rfl

theorem spanIdOf_ne_nil {requestId : Text} {nanos : ℤ} : spanIdOf requestId nanos ≠ [] :=
  List.append_ne_nil_of_right_ne_nil _ (List.cons_ne_nil _ _)

/-- A span that was started. -/
structure TraceSpanTimer where
  spanId : Text
  parentSpanId : Option Text
  startedAt : Time
  deriving DecidableEq

/-- A span that ended. -/
structure TraceSpanRecord where
  requestId : Text
  spanId : Text
  parentSpanId : Option Text
  name : Text
  layer : Text
  startedAt : Time
  completedAt : Time
  durationMs : ℕ
  status : Text
  attributes : SortedMap Text Text

/-- Where the spans of a request start. -/
structure TraceContext where
  requestId : Text
  parentSpanId : Option Text
  deriving DecidableEq

namespace TraceContext

/-- `TraceContext::new`. -/
def new (requestId : Text) : TraceContext where
  requestId := requestId
  parentSpanId := none

/-- `start_span`, with the two readings of the clock that it takes. -/
def startSpan (context : TraceContext) (now startedAt : Time) : TraceSpanTimer where
  spanId := newSpanId context.requestId now
  parentSpanId := context.parentSpanId
  startedAt := startedAt

/-- `child_context`. -/
def childContext (context : TraceContext) (timer : TraceSpanTimer) : TraceContext where
  requestId := context.requestId
  parentSpanId := some timer.spanId

/-- The record that `record_span` hands to the recorder. -/
def recordSpan (context : TraceContext) (timer : TraceSpanTimer) (name layer status : Text)
    (attributes : SortedMap Text Text) (completedAt : Time) (elapsedMs : ℕ) :
    TraceSpanRecord where
  requestId := context.requestId
  spanId := timer.spanId
  parentSpanId := timer.parentSpanId
  name := name
  layer := layer
  startedAt := timer.startedAt
  completedAt := completedAt
  durationMs := elapsedMs
  status := status
  attributes := attributes

end TraceContext

/-- The id of a span, and that of its parent. -/
abbrev SpanLink := Text × Option Text

def TraceSpanTimer.link (timer : TraceSpanTimer) : SpanLink :=
  (timer.spanId, timer.parentSpanId)

def TraceSpanRecord.link (record : TraceSpanRecord) : SpanLink :=
  (record.spanId, record.parentSpanId)

/-- Recording a span keeps its link. -/
@[simp]
theorem link_recordSpan {context : TraceContext} {timer : TraceSpanTimer}
    {name layer status : Text} {attributes : SortedMap Text Text} {completedAt : Time}
    {elapsedMs : ℕ} :
    (context.recordSpan timer name layer status attributes completedAt elapsedMs).link =
      timer.link := rfl

end Hiraeth

import Hiraeth.Core.Tracing
import Mathlib.Data.List.Perm.Subperm
import Mathlib.Data.List.Sort
import Mathlib.Data.List.Nodup

/-!
# The spans of a request

While a request is handled, spans are started in contexts, contexts are derived from started
spans, and spans end and are recorded.  The recorder may fail, a request may be given up,
other requests record their spans in between, and the console may clear the table.

## Main definitions

* `SpanOp`, `SpanState.run` — what happens to the spans of one request
* `resolveAndRouteSpans` — the outer spans of the request pipeline
* `SpanState.listTraceSpans` — the spans that the store lists for a request
* `DistinctReadings` — no two spans of the request were numbered alike
* `ParentsFirst` — every parent was started before its children

## Main results

* `run_derived` — what is known of the spans after any run
* `Derived.nodup_ids`, `ParentsFirst.idxOf_lt` — with distinct readings, ids are unique and parents
  come before their children
-/

namespace Hiraeth

/-- What a span is recorded with. -/
structure SpanDetails where
  name : Text
  layer : Text
  status : Text
  attributes : SortedMap Text Text
  completedAt : Time
  elapsedMs : ℕ

/-- A step in the life of the spans of one request. -/
inductive SpanOp where
  | startSpan (context : TraceContext) (now startedAt : Time)
  | childContext (context : TraceContext) (timer : TraceSpanTimer)
  /-- A timer is used up, whether or not the recorder stores the record. -/
  | recordSpan (context : TraceContext) (timer : TraceSpanTimer) (details : SpanDetails)
      (stored : Bool)
  /-- Another request records a span. -/
  | otherRequest (record : TraceSpanRecord)
  | clearTraces

/-- The contexts and running spans of a request, and the table of the recorded spans in the
order of their row numbers. -/
structure SpanState where
  contexts : List TraceContext
  timers : List TraceSpanTimer
  spans : List TraceSpanRecord

namespace SpanState

/-- The beginning: a context for the request, and an empty table. -/
def new (requestId : Text) : SpanState where
  contexts := [TraceContext.new requestId]
  timers := []
  spans := []

/-- One step.  Contexts and timers are used only where they were derived. -/
def apply (requestId : Text) (state : SpanState) : SpanOp → Option SpanState
  | .startSpan context now startedAt =>
      if state.contexts.contains context then
        some { state with timers := context.startSpan now startedAt :: state.timers }
      else none
  | .childContext context timer =>
      if state.contexts.contains context && state.timers.contains timer then
        some { state with contexts := context.childContext timer :: state.contexts }
      else none
  | .recordSpan context timer details stored =>
      if state.contexts.contains context && state.timers.contains timer then
        let record := context.recordSpan timer details.name details.layer details.status
          details.attributes details.completedAt details.elapsedMs
        some { state with
          timers := state.timers.erase timer
          spans := if stored then state.spans ++ [record] else state.spans }
      else none
  | .otherRequest record =>
      if record.requestId = requestId then none
      else some { state with spans := state.spans ++ [record] }
  | .clearTraces => some { state with spans := [] }

/-- Several steps. -/
def run (requestId : Text) (ops : List SpanOp) (state : SpanState) : Option SpanState :=
  ops.foldlM (apply requestId) state

/-- `list_trace_spans`: the spans of a request by the time they started, then by row. -/
def listTraceSpans (requestId : Text) (state : SpanState) : List TraceSpanRecord :=
  (state.spans.filter (·.requestId = requestId)).insertionSort fun left right =>
    left.startedAt ≤ right.startedAt

end SpanState

/-- The spans of `resolve_and_route`: the one of the request, the one of authentication under
it, and those of what follows, which starts under the latter. -/
def resolveAndRouteSpans (traceContext : TraceContext) (requestNow requestStartedAt authnNow
    authnStartedAt : Time) (authnDetails requestDetails : SpanDetails)
    (rest : TraceContext → List SpanOp) : List SpanOp :=
  let requestTimer := traceContext.startSpan requestNow requestStartedAt
  let requestTraceContext := traceContext.childContext requestTimer
  let authnTimer := requestTraceContext.startSpan authnNow authnStartedAt
  let authnTraceContext := requestTraceContext.childContext authnTimer
  [.startSpan traceContext requestNow requestStartedAt,
    .childContext traceContext requestTimer,
    .startSpan requestTraceContext authnNow authnStartedAt,
    .childContext requestTraceContext authnTimer,
    .recordSpan requestTraceContext authnTimer authnDetails true] ++
  rest authnTraceContext ++
  [.recordSpan traceContext requestTimer requestDetails true]

/-- The span that a step starts. -/
def SpanOp.started? : SpanOp → Option TraceSpanTimer
  | .startSpan context now startedAt => some (context.startSpan now startedAt)
  | _ => none

/-- The number that a step gives the span that it starts. -/
def SpanOp.nanos? : SpanOp → Option ℤ
  | .startSpan _ now _ => some (nanosOf now)
  | _ => none

/-- **No two spans of the request were numbered alike.** -/
def DistinctReadings (ops : List SpanOp) : Prop :=
  (ops.filterMap SpanOp.nanos?).Nodup

/-- **Every parent was started before its children.** -/
inductive ParentsFirst : List TraceSpanTimer → Prop where
  | nil : ParentsFirst []
  | snoc {earlier : List TraceSpanTimer} {timer : TraceSpanTimer} (first : ParentsFirst earlier)
      (known : ∀ id, timer.parentSpanId = some id → id ∈ earlier.map (·.spanId)) :
      ParentsFirst (earlier ++ [timer])

/-! ### What is known after any run -/

/-- The spans that the steps start. -/
def started (ops : List SpanOp) : List TraceSpanTimer :=
  ops.filterMap SpanOp.started?

/-- The links of the spans that run, and of those that were recorded for the request. -/
def SpanState.links (requestId : Text) (state : SpanState) : List SpanLink :=
  state.timers.map TraceSpanTimer.link ++
    (state.spans.filter (·.requestId = requestId)).map TraceSpanRecord.link

/-- **What is known of the spans after any run.** -/
structure Derived (requestId : Text) (ops : List SpanOp) (state : SpanState) : Prop where
  parentsFirst : ParentsFirst (started ops)
  ids : (started ops).map (·.spanId) = (ops.filterMap SpanOp.nanos?).map (spanIdOf requestId)
  contexts : ∀ context ∈ state.contexts, context.requestId = requestId ∧
    ∀ id, context.parentSpanId = some id → id ∈ (started ops).map (·.spanId)
  links : (state.links requestId).Subperm ((started ops).map TraceSpanTimer.link)

theorem started_append_singleton {ops : List SpanOp} {op : SpanOp} :
    started (ops ++ [op]) = started ops ++ op.started?.toList := by
  rw [started, List.filterMap_append]
  cases op <;> rfl

/-- What is known at the beginning. -/
theorem derived_new (requestId : Text) : Derived requestId [] (SpanState.new requestId) where
  parentsFirst := ParentsFirst.nil
  ids := rfl
  contexts := by
    intro context member
    obtain rfl := List.mem_singleton.mp member
    exact ⟨rfl, fun id isParent => nomatch isParent⟩
  links := List.Subperm.refl _

/-- A step that starts no span, and adds no links, keeps what is known. -/
theorem Derived.of_quiet {requestId : Text} {ops : List SpanOp} {op : SpanOp}
    {state state' : SpanState} (derived : Derived requestId ops state)
    (noSpan : op.started? = none) (noReading : op.nanos? = none)
    (contexts : ∀ context ∈ state'.contexts, context.requestId = requestId ∧
      ∀ id, context.parentSpanId = some id → id ∈ (started ops).map (·.spanId))
    (links : (state'.links requestId).Subperm (state.links requestId)) :
    Derived requestId (ops ++ [op]) state' := by
  have same : started (ops ++ [op]) = started ops := by
    rw [started_append_singleton, noSpan, Option.toList_none, List.append_nil]
  refine ⟨?_, ?_, ?_, ?_⟩
  · rw [same]
    exact derived.parentsFirst
  · rw [same, List.filterMap_append, List.filterMap_cons_none noReading, List.filterMap_nil,
      List.append_nil]
    exact derived.ids
  · rw [same]
    exact contexts
  · rw [same]
    exact links.trans derived.links

/-- Starting a span keeps what is known. -/
theorem Derived.startSpan {requestId : Text} {ops : List SpanOp} {state : SpanState}
    (derived : Derived requestId ops state) {context : TraceContext}
    (isContext : context ∈ state.contexts) (now startedAt : Time) :
    Derived requestId (ops ++ [.startSpan context now startedAt])
      { state with timers := context.startSpan now startedAt :: state.timers } := by
  obtain ⟨isOwn, known⟩ := derived.contexts context isContext
  have grown : started (ops ++ [.startSpan context now startedAt]) =
      started ops ++ [context.startSpan now startedAt] := started_append_singleton
  refine ⟨?_, ?_, ?_, ?_⟩
  · rw [grown]
    exact ParentsFirst.snoc derived.parentsFirst known
  · rw [grown, List.map_append, derived.ids, List.filterMap_append, List.map_append]
    show _ ++ [newSpanId context.requestId now] = _ ++ [spanIdOf requestId (nanosOf now)]
    rw [isOwn]
    rfl
  · intro other member
    obtain ⟨otherOwn, otherKnown⟩ := derived.contexts other member
    refine ⟨otherOwn, fun id isParent => ?_⟩
    rw [grown, List.map_append]
    exact List.mem_append_left _ (otherKnown id isParent)
  · rw [grown, List.map_append]
    show ((context.startSpan now startedAt).link :: state.links requestId).Subperm
      (_ ++ [(context.startSpan now startedAt).link])
    exact ((List.subperm_cons _).mpr derived.links).trans
      (List.perm_append_singleton _ _).symm.subperm

/-- Recording a span moves its link from the running spans to the table. -/
theorem links_recordSpan {requestId : Text} {state : SpanState} {timer : TraceSpanTimer} (isTimer : timer ∈ state.timers) (record : TraceSpanRecord)
    (sameLink : record.link = timer.link) (stored : Bool) :
    (SpanState.links requestId { state with
      timers := state.timers.erase timer
      spans := if stored then state.spans ++ [record] else state.spans }).Subperm
        (state.links requestId) := by
  have taken : (state.timers.map TraceSpanTimer.link).Perm
      (timer.link :: (state.timers.erase timer).map TraceSpanTimer.link) :=
    (List.perm_cons_erase isTimer).map TraceSpanTimer.link
  have remaining : ((state.timers.erase timer).map TraceSpanTimer.link ++
      (state.spans.filter (·.requestId = requestId)).map TraceSpanRecord.link).Subperm
        (state.links requestId) :=
    (List.subperm_append_right _).mpr
      (((List.erase_sublist).map TraceSpanTimer.link).subperm)
  cases stored with
  | false => exact remaining
  | true =>
      show ((state.timers.erase timer).map TraceSpanTimer.link ++
        ((state.spans ++ [record]).filter (·.requestId = requestId)).map
          TraceSpanRecord.link).Subperm _
      rw [List.filter_append, List.map_append, ← List.append_assoc]
      by_cases isOwn : record.requestId = requestId
      · rw [List.filter_cons_of_pos (by simpa using isOwn), List.filter_nil, List.map_cons,
          List.map_nil, sameLink]
        refine (List.perm_append_singleton _ _).subperm.trans ?_
        rw [← List.cons_append]
        exact (taken.symm.append_right _).subperm
      · rw [List.filter_cons_of_neg (by simpa using isOwn), List.filter_nil, List.map_nil,
          List.append_nil]
        exact remaining

/-- **Every step keeps what is known.** -/
theorem Derived.apply {requestId : Text} {ops : List SpanOp} {op : SpanOp}
    {state state' : SpanState} (derived : Derived requestId ops state)
    (applied : state.apply requestId op = some state') :
    Derived requestId (ops ++ [op]) state' := by
  cases op with
  | startSpan context now startedAt =>
      rw [SpanState.apply] at applied
      split_ifs at applied with isContext
      obtain rfl := Option.some.inj applied
      exact derived.startSpan (List.contains_iff_mem.mp isContext) now startedAt
  | childContext context timer =>
      obtain ⟨isDerived, applied⟩ := Option.ite_none_right_eq_some.mp applied
      obtain rfl := Option.some.inj applied
      obtain ⟨isContext, isTimer⟩ := Bool.and_eq_true_iff.mp isDerived
      refine derived.of_quiet rfl rfl ?_ (List.Subperm.refl _)
      intro other member
      rcases List.mem_cons.mp member with rfl | member
      · obtain ⟨isOwn, -⟩ := derived.contexts context (List.contains_iff_mem.mp isContext)
        refine ⟨isOwn, fun id isParent => ?_⟩
        -- the timer runs, so its id is that of a span that was started
        obtain rfl := Option.some.inj isParent
        have isLink : timer.link ∈ (started ops).map TraceSpanTimer.link :=
          derived.links.subset (List.mem_append_left _
            (List.mem_map_of_mem (List.contains_iff_mem.mp isTimer)))
        obtain ⟨same, isStarted, equal⟩ := List.mem_map.mp isLink
        exact List.mem_map.mpr ⟨same, isStarted, congrArg Prod.fst equal⟩
      · exact derived.contexts other member
  | recordSpan context timer details stored =>
      obtain ⟨isDerived, applied⟩ := Option.ite_none_right_eq_some.mp applied
      obtain rfl := Option.some.inj applied
      obtain ⟨-, isTimer⟩ := Bool.and_eq_true_iff.mp isDerived
      exact derived.of_quiet rfl rfl derived.contexts
        (links_recordSpan (List.contains_iff_mem.mp isTimer) _ rfl stored)
  | otherRequest record =>
      rw [SpanState.apply] at applied
      split_ifs at applied with isOther
      obtain rfl := Option.some.inj applied
      refine derived.of_quiet rfl rfl derived.contexts ?_
      unfold SpanState.links
      rw [List.filter_append, List.filter_cons_of_neg (by simpa using isOther), List.filter_nil,
        List.append_nil]
  | clearTraces =>
      obtain rfl := Option.some.inj applied
      refine derived.of_quiet rfl rfl derived.contexts ?_
      show (_ ++ []).Subperm (state.links requestId)
      rw [List.append_nil]
      exact (List.sublist_append_left _ _).subperm

/-- **Every run knows it.** -/
theorem run_derived {requestId : Text} {ops : List SpanOp} {state : SpanState}
    (ran : SpanState.run requestId ops (SpanState.new requestId) = some state) :
    Derived requestId ops state := by
  induction ops using List.reverseRecOn generalizing state with
  | nil =>
      obtain rfl := Option.some.inj ran
      exact derived_new requestId
  | append_singleton ops op inductionHypothesis =>
      rw [SpanState.run, List.foldlM_append] at ran
      obtain ⟨before, ranBefore, lastStep⟩ := Option.bind_eq_some_iff.mp ran
      rw [List.foldlM_cons] at lastStep
      obtain ⟨after, applied, isAfter⟩ := Option.bind_eq_some_iff.mp lastStep
      obtain rfl := Option.some.inj isAfter
      exact (inductionHypothesis ranBefore).apply applied

/-! ### With distinct readings -/

/-- **The ids of the spans that a request starts are distinct.** -/
theorem Derived.nodup_ids {requestId : Text} {ops : List SpanOp} {state : SpanState}
    (derived : Derived requestId ops state) (distinct : DistinctReadings ops) :
    ((started ops).map (·.spanId)).Nodup := by
  rw [derived.ids]
  exact distinct.map fun _ _ same => spanIdOf_inj.mp same

/-- Where ids are distinct, a parent comes before its children. -/
theorem ParentsFirst.idxOf_lt {timers : List TraceSpanTimer} (first : ParentsFirst timers)
    (distinct : (timers.map (·.spanId)).Nodup) {id parentId : Text}
    (isLink : (id, some parentId) ∈ timers.map TraceSpanTimer.link) :
    (timers.map (·.spanId)).idxOf parentId < (timers.map (·.spanId)).idxOf id := by
  induction first with
  | nil => cases isLink
  | @snoc earlier timer first known inductionHypothesis =>
      rw [List.map_append] at distinct isLink ⊢
      obtain ⟨earlierDistinct, -, apart⟩ := List.nodup_append.mp distinct
      rcases List.mem_append.mp isLink with isEarlier | isLast
      · have ordered := inductionHypothesis earlierDistinct isEarlier
        obtain ⟨same, isStarted, equal⟩ := List.mem_map.mp isEarlier
        have isId : id ∈ earlier.map (·.spanId) :=
          List.mem_map.mpr ⟨same, isStarted, congrArg Prod.fst equal⟩
        have isParentId : parentId ∈ earlier.map (·.spanId) :=
          List.idxOf_lt_length_iff.mp (ordered.trans (List.idxOf_lt_length_iff.mpr isId))
        rw [List.idxOf_append_of_mem isParentId, List.idxOf_append_of_mem isId]
        exact ordered
      · obtain equal := List.mem_singleton.mp isLast
        have isParentId := known parentId (congrArg Prod.snd equal).symm
        have isId : id = timer.spanId := congrArg Prod.fst equal
        have isNew : id ∉ earlier.map (·.spanId) := by
          intro isOld
          exact apart id isOld timer.spanId (List.mem_singleton.mpr rfl) isId
        rw [List.idxOf_append_of_mem isParentId, List.idxOf_append_of_notMem isNew]
        exact Nat.lt_add_right _ (List.idxOf_lt_length_iff.mpr isParentId)

/-- **The listed spans are among those that were started.** -/
theorem Derived.listed {requestId : Text} {ops : List SpanOp} {state : SpanState}
    (derived : Derived requestId ops state) :
    ((state.listTraceSpans requestId).map TraceSpanRecord.link).Subperm
      ((started ops).map TraceSpanTimer.link) := by
  have sorted := List.perm_insertionSort
    (fun left right : TraceSpanRecord => left.startedAt ≤ right.startedAt)
    (state.spans.filter (·.requestId = requestId))
  exact ((sorted.map TraceSpanRecord.link).subperm.trans
    (List.sublist_append_right _ _).subperm).trans derived.links

/-- The ids of the listed spans are distinct. -/
theorem Derived.nodup_listed {requestId : Text} {ops : List SpanOp} {state : SpanState}
    (derived : Derived requestId ops state) (distinct : DistinctReadings ops) :
    ((state.listTraceSpans requestId).map (·.spanId)).Nodup := by
  obtain ⟨same, isPerm, isSublist⟩ := derived.listed
  have ids : ((started ops).map TraceSpanTimer.link).map Prod.fst =
      (started ops).map (·.spanId) := List.map_map
  have listedIds : ((state.listTraceSpans requestId).map TraceSpanRecord.link).map Prod.fst =
      (state.listTraceSpans requestId).map (·.spanId) := List.map_map
  rw [← listedIds, ← (isPerm.map Prod.fst).nodup_iff]
  exact ((isSublist.map Prod.fst).nodup (ids ▸ derived.nodup_ids distinct))

/-- A listed span was started, with the parent it is listed with. -/
theorem Derived.mem_started {requestId : Text} {ops : List SpanOp} {state : SpanState}
    (derived : Derived requestId ops state) {span : TraceSpanRecord}
    (isListed : span ∈ state.listTraceSpans requestId) :
    span.link ∈ (started ops).map TraceSpanTimer.link :=
  derived.listed.subset (List.mem_map_of_mem isListed)

/-- The id of a listed span is one that was given out. -/
theorem Derived.mem_ids {requestId : Text} {ops : List SpanOp} {state : SpanState}
    (derived : Derived requestId ops state) {span : TraceSpanRecord}
    (isListed : span ∈ state.listTraceSpans requestId) :
    span.spanId ∈ (started ops).map (·.spanId) := by
  obtain ⟨timer, isStarted, same⟩ := List.mem_map.mp (derived.mem_started isListed)
  exact List.mem_map.mpr ⟨timer, isStarted, congrArg Prod.fst same⟩

/-! ### A request that is turned away -/

/-- The state after a request whose authentication failed. -/
def rejectedState (requestId : Text) (requestNow requestStartedAt authnNow authnStartedAt : Time)
    (authnDetails requestDetails : SpanDetails) : SpanState :=
  let traceContext := TraceContext.new requestId
  let requestTimer := traceContext.startSpan requestNow requestStartedAt
  let requestTraceContext := traceContext.childContext requestTimer
  let authnTimer := requestTraceContext.startSpan authnNow authnStartedAt
  { contexts := [requestTraceContext.childContext authnTimer, requestTraceContext, traceContext]
    timers := []
    spans := [
      requestTraceContext.recordSpan authnTimer authnDetails.name authnDetails.layer
        authnDetails.status authnDetails.attributes authnDetails.completedAt
        authnDetails.elapsedMs,
      traceContext.recordSpan requestTimer requestDetails.name requestDetails.layer
        requestDetails.status requestDetails.attributes requestDetails.completedAt
        requestDetails.elapsedMs] }

/-- **The spans of a request whose authentication failed.** -/
theorem run_rejected (requestId : Text) (requestNow requestStartedAt authnNow authnStartedAt : Time)
    (authnDetails requestDetails : SpanDetails) :
    SpanState.run requestId (resolveAndRouteSpans (TraceContext.new requestId) requestNow
      requestStartedAt authnNow authnStartedAt authnDetails requestDetails fun _ => [])
      (SpanState.new requestId) = some (rejectedState requestId requestNow requestStartedAt
        authnNow authnStartedAt authnDetails requestDetails) := by
  simp [resolveAndRouteSpans, SpanState.run, SpanState.apply, SpanState.new, rejectedState]

/-- The spans of such a request are listed in the order in which they started. -/
theorem listTraceSpans_rejected {requestId : Text} {requestNow requestStartedAt authnNow
    authnStartedAt : Time} (later : requestStartedAt < authnStartedAt)
    (authnDetails requestDetails : SpanDetails) :
    (rejectedState requestId requestNow requestStartedAt authnNow authnStartedAt authnDetails
      requestDetails).listTraceSpans requestId =
      (rejectedState requestId requestNow requestStartedAt authnNow authnStartedAt authnDetails
        requestDetails).spans.reverse := by
  have notBefore : ¬ authnStartedAt ≤ requestStartedAt := not_le.mpr later
  simp [SpanState.listTraceSpans, rejectedState, TraceContext.recordSpan, TraceContext.childContext,
    TraceContext.new, TraceContext.startSpan, notBefore]

end Hiraeth

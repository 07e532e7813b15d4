import Hiraeth.Lib.ParentLinks
import Hiraeth.Runtime.SpanRuns

/-!
# The graph of a trace

The console draws the spans of a request as a graph: a node for the request, and one for each
span below the span that encloses it.  How far below is found by following the ids of the
parents.

## Main definitions

* `spanDepth` — how far below the request a span is drawn
* `traceGraphView` — the graph; `tracePage` — the graph of a request
* `TraceGraphView.Draws` — each span is drawn once, one level below what it is drawn under

## Main results

* `spanDepth_eq_depth` — the depth of a span follows the parent links
* `tracePage_wellFounded` — with distinct readings of the clock the graph is well founded
* `tracePage_sameReading` — where a span is numbered as its parent, there is no graph
-/

namespace Hiraeth

/-! ### Views -/

/-- `TraceDetailView`, as far as the graph shows it. -/
structure TraceDetailView where
  method : Text
  path : Text
  responseStatusCode : ℕ
  responseStatusClass : Text

structure TraceSpanView where
  detailId : Text
  graphId : Text
  spanId : Text
  parentSpanId : Text
  hasParentSpanId : Bool
  name : Text
  layer : Text
  status : Text
  statusClass : Text
  durationMs : Text

structure TraceGraphNodeView where
  graphId : Text
  detailId : Text
  parentGraphId : Text
  hasParentGraphId : Bool
  label : Text
  info : Text
  status : Text
  statusClass : Text
  nodeClass : Text
  x : ℤ
  y : ℤ
  width : ℤ
  height : ℤ
  isSpan : Bool
  isTiny : Bool

structure TraceGraphEdgeView where
  parentGraphId : Text
  childGraphId : Text
  x1 : ℤ
  y1 : ℤ
  yMid : ℤ
  x2 : ℤ
  y2 : ℤ
  arrowLeftX : ℤ
  arrowRightX : ℤ
  arrowBaseY : ℤ

structure TraceGraphView where
  width : ℤ
  height : ℤ
  nodes : List TraceGraphNodeView
  edges : List TraceGraphEdgeView

/-- `span_status_class`. -/
def spanStatusClass (status : Text) : Text :=
  if status = ("ok" : Text) ∨ status = ("allow" : Text) then "badge-success"
  else if status = ("deny" : Text) ∨ status = ("error" : Text) then "badge-error"
  else "badge-outline"

/-- `graph_root_node_class_for_http_status`. -/
def graphRootNodeClassForHttpStatus (statusCode : ℕ) : Text :=
  if 500 ≤ statusCode then
    "border-error/80 bg-error/15 text-error-content shadow-[0_0_0_1px_rgba(0,0,0,0.2)]"
  else if 400 ≤ statusCode then
    "border-warning/80 bg-warning/15 text-warning-content shadow-[0_0_0_1px_rgba(0,0,0,0.2)]"
  else "border-primary/80 bg-primary/15 shadow-[0_0_0_1px_rgba(0,0,0,0.2)]"

/-- `graph_node_class_for_span_status`. -/
def graphNodeClassForSpanStatus (status : Text) (isTiny : Bool) : Text :=
  if status = ("ok" : Text) ∨ status = ("allow" : Text) then
    if isTiny then
      "border-success/40 bg-success/5 opacity-80 hover:border-success hover:bg-success/10"
    else "border-success/60 bg-success/10 hover:border-success hover:bg-success/15"
  else if status = ("deny" : Text) ∨ status = ("error" : Text) then
    if isTiny then
      "border-error/60 bg-error/10 opacity-90 hover:border-error hover:bg-error/15"
    else "border-error/70 bg-error/10 hover:border-error hover:bg-error/15"
  else if isTiny then
    "border-base-300/70 bg-base-100/70 hover:border-primary hover:bg-base-200"
  else "border-base-300 bg-base-100 hover:border-primary hover:bg-base-200"

/-- `trace_span_view`. -/
def traceSpanView (index : ℕ) (span : TraceSpanRecord) : TraceSpanView :=
  let parentSpanId := span.parentSpanId.getD []
  { detailId := "trace-span-detail-".toList ++ Nat.toDigits 10 index
    graphId := "trace-span-node-".toList ++ Nat.toDigits 10 index
    spanId := span.spanId
    parentSpanId := parentSpanId
    hasParentSpanId := !parentSpanId.isEmpty
    name := span.name
    layer := span.layer
    status := span.status
    statusClass := spanStatusClass span.status
    durationMs := Nat.toDigits 10 span.durationMs }

/-! ### The graph -/

def nodeWidth : ℤ := 168
def nodeHeight : ℤ := 52
def tinyNodeHeight : ℤ := 34
def xGap : ℤ := 42
def yGap : ℤ := 54
def margin : ℤ := 24

/-- The index of the span with each id.  Of two spans with one id, the later one counts. -/
def spanIndexById (spans : List TraceSpanView) : SortedMap Text ℕ :=
  SortedMap.ofList (spans.zipIdx.map fun entry => (entry.1.spanId, entry.2))

/-- `span_depth`.  It calls itself for the parent, as often as there is fuel. -/
def spanDepth : ℕ → ℕ → List TraceSpanView → SortedMap Text ℕ → Option ℕ
  | 0, _, _, _ => none
  | fuel + 1, index, spans, indexById => do
      let span ← spans[index]?
      if span.hasParentSpanId = false then
        return 1
      match indexById.get? span.parentSpanId with
      | some parentIndex =>
          let depth ← spanDepth fuel parentIndex spans indexById
          return depth + 1
      | none => return 1

/-- The depth of each span. -/
def spanDepths (fuel : ℕ) (spans : List TraceSpanView) : Option (List ℕ) :=
  if spans.any (·.hasParentSpanId) then
    (List.range spans.length).mapM fun index =>
      spanDepth fuel index spans (spanIndexById spans)
  else
    some ((List.range spans.length).map (· + 1))

/-- The row of each span: how many spans before it have its depth. -/
def spanRows (depths : List ℕ) : List ℕ :=
  let step := fun (state : SortedMap ℕ ℕ × List ℕ) (depth : ℕ) =>
    let row := (state.1.get? depth).getD 0
    (state.1.insert depth (row + 1), state.2 ++ [row])
  (depths.foldl step (SortedMap.empty, [])).2

/-- Where a node is drawn, for the edges to what is drawn under it. -/
structure ParentNode where
  x : ℤ
  y : ℤ
  height : ℤ
  graphId : Text

/-- Where the span at an index is drawn. -/
def drawnAt (spans : List TraceSpanView) (depths rows : List ℕ) (index : ℕ) : ParentNode where
  x := margin + rows.getD index 0 * (nodeWidth + xGap)
  y := margin + depths.getD index 0 * (nodeHeight + yGap)
  height := if (spans[index]?.map (·.durationMs)) = some ("0" : Text) then tinyNodeHeight
    else nodeHeight
  graphId := (spans[index]?.map (·.graphId)).getD []

/-- The node that a span is drawn under, if it is not the node of the request. -/
def parentNode (spans : List TraceSpanView) (depths rows : List ℕ) (index : ℕ)
    (span : TraceSpanView) : Option ParentNode :=
  if spans.any (·.hasParentSpanId) then
    ((spanIndexById spans).get? span.parentSpanId).map (drawnAt spans depths rows)
  else if 0 < index then
    some (drawnAt spans depths rows (index - 1))
  else
    none

/-- The node of the request. -/
def rootNode (trace : TraceDetailView) (rows : List ℕ) : TraceGraphNodeView where
  graphId := "trace-root-node"
  detailId := []
  parentGraphId := []
  hasParentGraphId := false
  label := trace.method ++ ' ' :: trace.path
  info := []
  status := Nat.toDigits 10 trace.responseStatusCode
  statusClass := trace.responseStatusClass
  nodeClass := graphRootNodeClassForHttpStatus trace.responseStatusCode
  x := margin + ((rows.max?.getD 0 : ℕ) * (nodeWidth + xGap)) / 2
  y := margin
  width := nodeWidth
  height := nodeHeight
  isSpan := false
  isTiny := false

/-- The node of a span. -/
def spanNode (spans : List TraceSpanView) (depths rows : List ℕ) (entry : TraceSpanView × ℕ) :
    TraceGraphNodeView :=
  let span := entry.1
  let isTiny := decide (span.durationMs = ("0" : Text))
  { graphId := span.graphId
    detailId := span.detailId
    parentGraphId := ((parentNode spans depths rows entry.2 span).map (·.graphId)).getD
      "trace-root-node".toList
    hasParentGraphId := true
    label := span.name
    info := span.layer
    status := span.status
    statusClass := span.statusClass
    nodeClass := graphNodeClassForSpanStatus span.status isTiny
    x := margin + rows.getD entry.2 0 * (nodeWidth + xGap)
    y := margin + depths.getD entry.2 0 * (nodeHeight + yGap)
    width := nodeWidth
    height := if isTiny then tinyNodeHeight else nodeHeight
    isSpan := true
    isTiny := isTiny }

/-- The edge to a span. -/
def spanEdge (trace : TraceDetailView) (spans : List TraceSpanView) (depths rows : List ℕ)
    (entry : TraceSpanView × ℕ) : TraceGraphEdgeView :=
  let node := spanNode spans depths rows entry
  let root := rootNode trace rows
  let upper := (parentNode spans depths rows entry.2 entry.1).getD
    { x := root.x, y := margin, height := nodeHeight, graphId := root.graphId }
  let y1 := upper.y + upper.height
  let y2 := node.y - 8
  { parentGraphId := node.parentGraphId
    childGraphId := node.graphId
    x1 := upper.x + nodeWidth / 2
    y1 := y1
    yMid := y1 + (y2 - y1).tdiv 2
    x2 := node.x + nodeWidth / 2
    y2 := y2
    arrowLeftX := node.x + nodeWidth / 2 - 5
    arrowRightX := node.x + nodeWidth / 2 + 5
    arrowBaseY := y2 - 8 }

/-- `trace_graph_view`.  There is none where the depth of a span has none. -/
def traceGraphView (fuel : ℕ) (trace : TraceDetailView) (spans : List TraceSpanView) :
    Option TraceGraphView := do
  if spans.isEmpty then
    return { width := 0, height := 0, nodes := [], edges := [] }
  let depths ← spanDepths fuel spans
  let rows := spanRows depths
  let maxRow : ℤ := (rows.max?.getD 0 : ℕ)
  let maxDepth : ℤ := (depths.max?.getD 0 : ℕ)
  return {
    width := margin * 2 + (maxRow + 1) * nodeWidth + maxRow * xGap
    height := margin * 2 + (maxDepth + 1) * nodeHeight + maxDepth * yGap
    nodes := rootNode trace rows :: spans.zipIdx.map (spanNode spans depths rows)
    edges := spans.zipIdx.map (spanEdge trace spans depths rows) }

/-- The spans of a request as `trace_detail` shows them. -/
def traceSpanViews (spans : List TraceSpanRecord) : List TraceSpanView :=
  spans.zipIdx.map fun entry => traceSpanView entry.2 entry.1

/-- The graph on the page of a request. -/
def tracePage (fuel : ℕ) (trace : TraceDetailView) (requestId : Text) (state : SpanState) :
    Option TraceGraphView :=
  traceGraphView fuel trace (traceSpanViews (state.listTraceSpans requestId))

/-! ### Parents among the spans -/

theorem getElem?_traceSpanViews {spans : List TraceSpanRecord} {index : ℕ} :
    (traceSpanViews spans)[index]? = spans[index]?.map (traceSpanView index) := by
  rw [traceSpanViews, List.getElem?_map, List.getElem?_zipIdx, Option.map_map, Nat.zero_add]
  rfl

/-- The index found for an id is that of a span with the id. -/
theorem spanId_of_get?_spanIndexById {spans : List TraceSpanView} {id : Text} {index : ℕ}
    (found : (spanIndexById spans).get? id = some index) :
    ∃ span, spans[index]? = some span ∧ span.spanId = id := by
  obtain ⟨entry, isIndexed, same⟩ := List.mem_map.mp (SortedMap.mem_of_get?_ofList found)
  refine ⟨entry.1, ?_, congrArg Prod.fst same⟩
  rw [← show entry.2 = index from congrArg Prod.snd same]
  exact List.mem_zipIdx_iff_getElem?.mp isIndexed

/-- Every id that a span has is found. -/
theorem exists_get?_spanIndexById {spans : List TraceSpanView} {span : TraceSpanView}
    (member : span ∈ spans) : ∃ index, (spanIndexById spans).get? span.spanId = some index := by
  obtain ⟨index, isIndex⟩ := List.mem_iff_getElem?.mp member
  have isEntry : (span.spanId, index) ∈
      spans.zipIdx.map fun entry => (entry.1.spanId, entry.2) :=
    List.mem_map.mpr ⟨(span, index), List.mem_zipIdx_iff_getElem?.mpr isIndex, rfl⟩
  exact SortedMap.exists_get?_ofList isEntry

/-- The span whose depth `span_depth` asks for next. -/
def parentIndex (spans : List TraceSpanView) (index : ℕ) : Option ℕ :=
  spans[index]?.bind fun span =>
    if span.hasParentSpanId then (spanIndexById spans).get? span.parentSpanId else none

/-- **The depth of a span follows the parent links.** -/
theorem spanDepth_eq_depth {spans : List TraceSpanView} {index : ℕ} (inRange : index < spans.length)
    (fuel : ℕ) :
    spanDepth fuel index spans (spanIndexById spans) =
      ParentLinks.depth (parentIndex spans) fuel index := by
  induction fuel generalizing index with
  | zero => rfl
  | succ fuel inductionHypothesis =>
      rw [spanDepth, ParentLinks.depth, parentIndex, List.getElem?_eq_getElem inRange]
      simp only [Option.bind_eq_bind, Option.bind_some]
      cases hasParent : spans[index].hasParentSpanId with
      | false => rfl
      | true =>
          cases found : (spanIndexById spans).get? spans[index].parentSpanId with
          | none => simp
          | some above =>
              obtain ⟨span, isSpan, -⟩ := spanId_of_get?_spanIndexById found
              have aboveInRange := (List.getElem?_eq_some_iff.mp isSpan).1
              simp only [if_true, inductionHypothesis aboveInRange]
              rw [if_neg (by decide)]
              exact (Option.map_eq_bind).symm

/-! ### Depths -/

/-- The results of a traversal that succeeds, at each place. -/
theorem getElem?_of_mapM {α β : Type} {f : α → Option β} {items : List α} {results : List β}
    (traversed : items.mapM f = some results) {index : ℕ} {item : α}
    (isItem : items[index]? = some item) :
    ∃ result, f item = some result ∧ results[index]? = some result := by
  induction items generalizing results index with
  | nil => cases isItem
  | cons first rest inductionHypothesis =>
      rw [List.mapM_cons] at traversed
      obtain ⟨result, isResult, traversed⟩ := Option.bind_eq_some_iff.mp traversed
      obtain ⟨others, isOthers, same⟩ := Option.bind_eq_some_iff.mp traversed
      obtain rfl := Option.some.inj same
      cases index with
      | zero =>
          obtain rfl := Option.some.inj isItem
          exact ⟨result, isResult, rfl⟩
      | succ index => exact inductionHypothesis isOthers isItem

/-- A traversal succeeds where every step does. -/
theorem exists_mapM {α β : Type} {f : α → Option β} {items : List α}
    (each : ∀ item ∈ items, ∃ result, f item = some result) :
    ∃ results, items.mapM f = some results := by
  induction items with
  | nil => exact ⟨[], rfl⟩
  | cons first rest inductionHypothesis =>
      obtain ⟨result, isResult⟩ := each first List.mem_cons_self
      obtain ⟨others, isOthers⟩ :=
        inductionHypothesis fun item member => each item (List.mem_cons_of_mem _ member)
      refine ⟨result :: others, ?_⟩
      rw [List.mapM_cons, isResult, isOthers]
      rfl

/-- **Spans whose parents have a smaller rank**, and ids that are not empty. -/
structure Ranked (rank : Text → ℕ) (spans : List TraceSpanRecord) : Prop where
  distinct : (spans.map (·.spanId)).Nodup
  descends : ∀ span ∈ spans, ∀ id, span.parentSpanId = some id → rank id < rank span.spanId
  named : ∀ span ∈ spans, span.spanId ≠ []

/-- The rank of the span at an index. -/
def rankAt (rank : Text → ℕ) (spans : List TraceSpanRecord) (index : ℕ) : ℕ :=
  (spans[index]?.map fun span => rank span.spanId).getD 0

theorem rankAt_eq {rank : Text → ℕ} {spans : List TraceSpanRecord} {index : ℕ}
    {span : TraceSpanRecord} (isSpan : spans[index]? = some span) :
    rankAt rank spans index = rank span.spanId := by
  rw [rankAt, isSpan]
  rfl

/-- What it takes for a span to have a parent among the spans. -/
theorem parentIndex_eq_some {spans : List TraceSpanRecord} {above below : ℕ}
    (isParent : parentIndex (traceSpanViews spans) below = some above) :
    ∃ upper lower, spans[above]? = some upper ∧ spans[below]? = some lower ∧
      lower.parentSpanId = some upper.spanId := by
  obtain ⟨view, isView, isParent⟩ := Option.bind_eq_some_iff.mp isParent
  rw [getElem?_traceSpanViews] at isView
  obtain ⟨lower, isLower, rfl⟩ := Option.map_eq_some_iff.mp isView
  obtain ⟨hasParent, found⟩ := Option.ite_none_right_eq_some.mp isParent
  obtain ⟨upperView, isUpperView, sameId⟩ := spanId_of_get?_spanIndexById found
  rw [getElem?_traceSpanViews] at isUpperView
  obtain ⟨upper, isUpper, rfl⟩ := Option.map_eq_some_iff.mp isUpperView
  refine ⟨upper, lower, isUpper, isLower, ?_⟩
  have sameId : upper.spanId = lower.parentSpanId.getD [] := sameId
  have hasParent : (!(lower.parentSpanId.getD []).isEmpty) = true := hasParent
  cases isId : lower.parentSpanId with
  | none =>
      rw [isId] at hasParent
      cases hasParent
  | some id =>
      rw [isId] at sameId
      exact congrArg some sameId.symm

/-- Ranks go down along the parents. -/
theorem Ranked.descends_parentIndex {rank : Text → ℕ} {spans : List TraceSpanRecord}
    (ranked : Ranked rank spans) (above below : ℕ)
    (isParent : ParentLinks.IsParent (parentIndex (traceSpanViews spans)) above below) :
    rankAt rank spans above < rankAt rank spans below := by
  obtain ⟨upper, lower, isUpper, isLower, isId⟩ := parentIndex_eq_some isParent
  rw [rankAt_eq isUpper, rankAt_eq isLower]
  exact ranked.descends lower (List.mem_of_getElem? isLower) upper.spanId isId

/-- **Every span of ranked spans has a depth.** -/
theorem Ranked.exists_spanDepth {rank : Text → ℕ} {spans : List TraceSpanRecord}
    (ranked : Ranked rank spans) {fuel : ℕ} (enough : ∀ span ∈ spans, rank span.spanId < fuel)
    {index : ℕ} (inRange : index < spans.length) :
    ∃ depth, spanDepth fuel index (traceSpanViews spans)
      (spanIndexById (traceSpanViews spans)) = some depth := by
  have sameLength : (traceSpanViews spans).length = spans.length := by
    rw [traceSpanViews, List.length_map, List.length_zipIdx]
  rw [spanDepth_eq_depth (inRange.trans_eq sameLength.symm)]
  refine ParentLinks.depth_of_rank _ ranked.descends_parentIndex ?_
  rw [rankAt_eq (List.getElem?_eq_getElem inRange)]
  exact enough _ (List.getElem_mem inRange)

/-- The index found for the parent of a span is that of its parent. -/
theorem Ranked.get?_parentSpanId {rank : Text → ℕ} {spans : List TraceSpanRecord}
    (ranked : Ranked rank spans) {index : ℕ} {view : TraceSpanView}
    (isView : (traceSpanViews spans)[index]? = some view) :
    (spanIndexById (traceSpanViews spans)).get? view.parentSpanId =
      parentIndex (traceSpanViews spans) index := by
  rw [parentIndex, isView, Option.bind_some]
  cases hasParent : view.hasParentSpanId with
  | true => rfl
  | false =>
      -- no span has the empty id
      rw [getElem?_traceSpanViews] at isView
      obtain ⟨span, isSpan, rfl⟩ := Option.map_eq_some_iff.mp isView
      have isEmpty : span.parentSpanId.getD [] = [] := by
        have hasParent : (!(span.parentSpanId.getD []).isEmpty) = false := hasParent
        rw [Bool.not_eq_false', List.isEmpty_iff] at hasParent
        exact hasParent
      show (spanIndexById (traceSpanViews spans)).get? (span.parentSpanId.getD []) = none
      rw [isEmpty, Option.eq_none_iff_forall_ne_some]
      intro found isFound
      obtain ⟨other, isOther, otherId⟩ := spanId_of_get?_spanIndexById isFound
      rw [getElem?_traceSpanViews] at isOther
      obtain ⟨record, isRecord, rfl⟩ := Option.map_eq_some_iff.mp isOther
      exact ranked.named record (List.mem_of_getElem? isRecord) otherId

/-- **Every span is one level below what it is drawn under.** -/
theorem Ranked.level_spanDepths {rank : Text → ℕ} {spans : List TraceSpanRecord}
    (ranked : Ranked rank spans) {fuel : ℕ} {depths : List ℕ} (rows : List ℕ)
    (isDepths : spanDepths fuel (traceSpanViews spans) = some depths) {index : ℕ}
    {view : TraceSpanView} (isView : (traceSpanViews spans)[index]? = some view) :
    (parentNode (traceSpanViews spans) depths rows index view = none ∧
        depths.getD index 0 = 1) ∨
      ∃ above, above < (traceSpanViews spans).length ∧
        parentNode (traceSpanViews spans) depths rows index view =
          some (drawnAt (traceSpanViews spans) depths rows above) ∧
        depths.getD index 0 = depths.getD above 0 + 1 := by
  obtain ⟨inRange, -⟩ := List.getElem?_eq_some_iff.mp isView
  unfold spanDepths at isDepths
  unfold parentNode
  by_cases links : (traceSpanViews spans).any (·.hasParentSpanId) = true
  · rw [if_pos links] at isDepths ⊢
    rw [ranked.get?_parentSpanId isView]
    have depthAt : ∀ {place : ℕ}, place < (traceSpanViews spans).length → ∃ depth,
        ParentLinks.depth (parentIndex (traceSpanViews spans)) fuel place = some depth ∧
          depths[place]? = some depth := by
      intro place placeInRange
      rw [← spanDepth_eq_depth placeInRange]
      exact getElem?_of_mapM isDepths (List.getElem?_range placeInRange)
    obtain ⟨depth, found, isDepth⟩ := depthAt inRange
    cases isParent : parentIndex (traceSpanViews spans) index with
    | none =>
        refine Or.inl ⟨rfl, ?_⟩
        cases fuel with
        | zero => cases found
        | succ fuel =>
            rw [ParentLinks.depth_of_root isParent] at found
            rw [List.getD_eq_getElem?_getD, isDepth, ← found]
            rfl
    | some above =>
        obtain ⟨upper, -, isUpper, -, -⟩ := parentIndex_eq_some isParent
        have aboveInRange : above < (traceSpanViews spans).length := by
          rw [traceSpanViews, List.length_map, List.length_zipIdx]
          exact (List.getElem?_eq_some_iff.mp isUpper).1
        obtain ⟨lower, isLower, rfl⟩ := ParentLinks.depth_isParent isParent found
        obtain ⟨level, isLevel, isAbove⟩ := depthAt aboveInRange
        refine Or.inr ⟨above, aboveInRange, rfl, ?_⟩
        rw [List.getD_eq_getElem?_getD, List.getD_eq_getElem?_getD, isDepth, isAbove]
        exact congrArg (· + 1) (Option.some.inj (isLower.symm.trans isLevel))
  · rw [if_neg links] at isDepths ⊢
    obtain rfl := Option.some.inj isDepths
    have depthAt : ∀ {place : ℕ}, place < (traceSpanViews spans).length →
        ((List.range (traceSpanViews spans).length).map (· + 1)).getD place 0 = place + 1 := by
      intro place placeInRange
      rw [List.getD_eq_getElem?_getD, List.getElem?_map, List.getElem?_range placeInRange]
      rfl
    by_cases first : 0 < index
    · rw [if_pos first]
      refine Or.inr ⟨index - 1, by omega, rfl, ?_⟩
      rw [depthAt inRange, depthAt (by omega)]
      omega
    · rw [if_neg first]
      refine Or.inl ⟨rfl, ?_⟩
      rw [depthAt inRange]
      omega

/-! ### What is drawn -/

/-- **Each span is drawn once, one level below what it is drawn under**, which is its parent
where that is among the spans. -/
structure TraceGraphView.Draws (graph : TraceGraphView) (spans : List TraceSpanView) : Prop where
  once : (graph.nodes.filter (·.isSpan)).map (·.graphId) = spans.map (·.graphId)
  distinct : (graph.nodes.map (·.graphId)).Nodup
  below : ∀ node ∈ graph.nodes, node.isSpan = true → ∃ upper ∈ graph.nodes,
    upper.graphId = node.parentGraphId ∧ node.y = upper.y + (nodeHeight + yGap)
  linked : ∀ span ∈ spans, ∀ parent ∈ spans, span.hasParentSpanId = true →
    span.parentSpanId = parent.spanId →
      ∃ node ∈ graph.nodes, node.graphId = span.graphId ∧ node.parentGraphId = parent.graphId

/-- The nodes of the spans are named by the spans. -/
theorem map_graphId_spanNode {spans : List TraceSpanView} {depths rows : List ℕ} :
    (spans.zipIdx.map (spanNode spans depths rows)).map (·.graphId) = spans.map (·.graphId) := by
  rw [List.map_map]
  show spans.zipIdx.map ((·.graphId) ∘ Prod.fst) = _
  rw [← List.map_map, List.zipIdx_map_fst]

/-- The names of the nodes of a page are distinct. -/
theorem nodup_graphIds (spans : List TraceSpanRecord) :
    (("trace-root-node" : Text) :: (traceSpanViews spans).map (·.graphId)).Nodup := by
  have named : (traceSpanViews spans).map (·.graphId) =
      (List.range spans.length).map fun index =>
        "trace-span-node-".toList ++ Nat.toDigits 10 index := by
    rw [traceSpanViews, List.map_map]
    show spans.zipIdx.map ((fun index => "trace-span-node-".toList ++ Nat.toDigits 10 index) ∘
      Prod.snd) = _
    rw [← List.map_map, List.zipIdx_map_snd, ← List.range_eq_range']
  rw [named, List.nodup_cons]
  constructor
  · intro isSpan
    obtain ⟨index, -, same⟩ := List.mem_map.mp isSpan
    have differs := congrArg (List.take 7) same
    rw [List.take_append_of_le_length (by decide)] at differs
    exact absurd differs (by decide)
  · refine List.nodup_range.map fun left right same => ?_
    exact toDigits_inj.mp (List.append_cancel_left same)

/-- Where a span is drawn, there is its node. -/
theorem exists_node_of_drawnAt {spans : List TraceSpanView} (depths rows : List ℕ) {index : ℕ}
    (inRange : index < spans.length) :
    ∃ node ∈ spans.zipIdx.map (spanNode spans depths rows),
      node.graphId = (drawnAt spans depths rows index).graphId ∧
        node.y = (drawnAt spans depths rows index).y := by
  have isSpan := List.getElem?_eq_getElem inRange
  refine ⟨spanNode spans depths rows (spans[index], index), List.mem_map.mpr
    ⟨_, List.mem_zipIdx_iff_getElem?.mpr isSpan, rfl⟩, ?_, rfl⟩
  show _ = (spans[index]?.map (·.graphId)).getD []
  rw [isSpan]
  rfl

/-- **Ranked spans have depths.** -/
theorem Ranked.exists_spanDepths {rank : Text → ℕ} {spans : List TraceSpanRecord}
    (ranked : Ranked rank spans) {fuel : ℕ} (enough : ∀ span ∈ spans, rank span.spanId < fuel) :
    ∃ depths, spanDepths fuel (traceSpanViews spans) = some depths := by
  unfold spanDepths
  split_ifs with links
  · refine exists_mapM fun index member => ranked.exists_spanDepth enough ?_
    rw [traceSpanViews, List.length_map, List.length_zipIdx] at member
    exact List.mem_range.mp member
  · exact ⟨_, rfl⟩

/-- Of ranked spans, the index found for the id of a span is that of the span. -/
theorem Ranked.get?_spanId {rank : Text → ℕ} {spans : List TraceSpanRecord}
    (ranked : Ranked rank spans) {index : ℕ} {view : TraceSpanView}
    (isView : (traceSpanViews spans)[index]? = some view) :
    (spanIndexById (traceSpanViews spans)).get? view.spanId = some index := by
  obtain ⟨found, isFound⟩ := exists_get?_spanIndexById (List.mem_of_getElem? isView)
  obtain ⟨other, isOther, sameId⟩ := spanId_of_get?_spanIndexById isFound
  rw [getElem?_traceSpanViews] at isView isOther
  obtain ⟨span, isSpan, rfl⟩ := Option.map_eq_some_iff.mp isView
  obtain ⟨record, isRecord, rfl⟩ := Option.map_eq_some_iff.mp isOther
  obtain ⟨spanInRange, -⟩ := List.getElem?_eq_some_iff.mp isSpan
  obtain ⟨recordInRange, -⟩ := List.getElem?_eq_some_iff.mp isRecord
  have ids : (spans.map (·.spanId))[found]? = (spans.map (·.spanId))[index]? := by
    rw [List.getElem?_map, List.getElem?_map, isSpan, isRecord]
    exact congrArg some sameId
  have same : found = index :=
    (List.getElem?_inj (by rw [List.length_map]; exact recordInRange) ranked.distinct).mp ids
  rw [isFound, same]

/-- **The nodes of ranked spans.** -/
theorem Ranked.draws {rank : Text → ℕ} {spans : List TraceSpanRecord}
    (ranked : Ranked rank spans) {fuel : ℕ} {depths rows : List ℕ}
    (isDepths : spanDepths fuel (traceSpanViews spans) = some depths) (trace : TraceDetailView)
    {graph : TraceGraphView} (isNodes : graph.nodes = rootNode trace rows ::
      (traceSpanViews spans).zipIdx.map (spanNode (traceSpanViews spans) depths rows)) :
    graph.Draws (traceSpanViews spans) := by
  refine ⟨?_, ?_, ?_, ?_⟩
  · rw [isNodes, List.filter_cons_of_neg (show ¬ (false = true) from Bool.false_ne_true),
      List.filter_eq_self.mpr, map_graphId_spanNode]
    intro node member
    obtain ⟨entry, -, rfl⟩ := List.mem_map.mp member
    rfl
  · rw [isNodes, List.map_cons, map_graphId_spanNode]
    exact nodup_graphIds spans
  · rw [isNodes]
    intro node member isSpan
    rcases List.mem_cons.mp member with rfl | member
    · cases isSpan
    · obtain ⟨⟨view, index⟩, isEntry, rfl⟩ := List.mem_map.mp member
      have isView := List.mem_zipIdx_iff_getElem?.mp isEntry
      rcases ranked.level_spanDepths rows isDepths isView with
        ⟨isTop, level⟩ | ⟨above, inRange, isUnder, level⟩
      · refine ⟨_, List.mem_cons_self, ?_, ?_⟩
        · rw [spanNode, isTop]
          rfl
        · show margin + (depths.getD index 0 : ℕ) * (nodeHeight + yGap) = margin + _
          rw [level]
          omega
      · obtain ⟨upper, isUpper, sameId, sameY⟩ :=
          exists_node_of_drawnAt depths rows inRange
        refine ⟨upper, List.mem_cons_of_mem _ isUpper, ?_, ?_⟩
        · rw [sameId, spanNode, isUnder]
          rfl
        · rw [sameY]
          show margin + (depths.getD index 0 : ℕ) * (nodeHeight + yGap) =
            margin + (depths.getD above 0 : ℕ) * (nodeHeight + yGap) + (nodeHeight + yGap)
          rw [level, Int.natCast_succ, Int.add_mul, Int.one_mul, Int.add_assoc]
  · intro view isView parent isParent hasParent sameId
    obtain ⟨index, isIndex⟩ := List.mem_iff_getElem?.mp isView
    obtain ⟨above, isAbove⟩ := List.mem_iff_getElem?.mp isParent
    refine ⟨spanNode (traceSpanViews spans) depths rows (view, index), ?_, rfl, ?_⟩
    · rw [isNodes]
      exact List.mem_cons_of_mem _ (List.mem_map.mpr
        ⟨_, List.mem_zipIdx_iff_getElem?.mpr isIndex, rfl⟩)
    · have links : (traceSpanViews spans).any (·.hasParentSpanId) = true :=
        List.any_eq_true.mpr ⟨view, isView, hasParent⟩
      rw [spanNode, parentNode, if_pos links, sameId, ranked.get?_spanId isAbove]
      show ((traceSpanViews spans)[above]?.map (·.graphId)).getD [] = _
      rw [isAbove]
      rfl

/-- **The graph of ranked spans.** -/
theorem Ranked.exists_graph {rank : Text → ℕ} {spans : List TraceSpanRecord}
    (ranked : Ranked rank spans) {fuel : ℕ} (enough : ∀ span ∈ spans, rank span.spanId < fuel)
    (trace : TraceDetailView) :
    ∃ graph, traceGraphView fuel trace (traceSpanViews spans) = some graph ∧
      graph.Draws (traceSpanViews spans) := by
  cases isEmpty : (traceSpanViews spans).isEmpty with
  | true =>
      refine ⟨{ width := 0, height := 0, nodes := [], edges := [] }, ?_, ?_⟩
      · rw [traceGraphView, if_pos isEmpty]
        rfl
      · rw [List.isEmpty_iff.mp isEmpty]
        exact ⟨rfl, List.nodup_nil, fun node member => (by cases member),
          fun span member => (by cases member)⟩
  | false =>
      obtain ⟨depths, isDepths⟩ := ranked.exists_spanDepths enough
      rw [traceGraphView, if_neg (by rw [isEmpty]; exact Bool.false_ne_true), isDepths]
      exact ⟨_, rfl, ranked.draws isDepths trace rfl⟩

/-! ### Runs -/

/-- `above` is recorded as the parent of `below`. -/
def IsParentSpan (spans : List TraceSpanRecord) (above below : TraceSpanRecord) : Prop :=
  above ∈ spans ∧ below ∈ spans ∧ below.parentSpanId = some above.spanId

/-- **The parent links of the spans form a forest**, and their ids are distinct. -/
structure IsForest (spans : List TraceSpanRecord) : Prop where
  distinct : (spans.map (·.spanId)).Nodup
  oneParent : ∀ above other below, IsParentSpan spans above below →
    IsParentSpan spans other below → above = other
  wellFounded : WellFounded (IsParentSpan spans)

/-- Ranked spans form a forest. -/
theorem Ranked.isForest {rank : Text → ℕ} {spans : List TraceSpanRecord}
    (ranked : Ranked rank spans) : IsForest spans := by
  refine ⟨ranked.distinct, ?_, ?_⟩
  · rintro above other below ⟨isAbove, -, aboveId⟩ ⟨isOther, -, otherId⟩
    exact List.inj_on_of_nodup_map ranked.distinct isAbove isOther
      (Option.some.inj (aboveId.symm.trans otherId))
  · refine Subrelation.wf (fun {above below} isParent => ?_)
      (InvImage.wf (fun span : TraceSpanRecord => rank span.spanId) Nat.lt_wfRel.wf)
    exact ranked.descends below isParent.2.1 above.spanId isParent.2.2

/-- **With distinct readings, the listed spans are ranked by the order of their start.** -/
theorem Derived.ranked {requestId : Text} {ops : List SpanOp} {state : SpanState}
    (derived : Derived requestId ops state) (distinct : DistinctReadings ops) :
    Ranked (fun id => ((started ops).map (·.spanId)).idxOf id)
      (state.listTraceSpans requestId) := by
  refine ⟨derived.nodup_listed distinct, ?_, ?_⟩
  · intro span isListed id isParent
    have isLink := derived.mem_started isListed
    rw [TraceSpanRecord.link, isParent] at isLink
    exact derived.parentsFirst.idxOf_lt (derived.nodup_ids distinct) isLink
  · intro span isListed isEmpty
    have isId := derived.mem_ids isListed
    rw [derived.ids, isEmpty] at isId
    obtain ⟨nanos, -, same⟩ := List.mem_map.mp isId
    exact spanIdOf_ne_nil same

/-- **With distinct readings of the clock the graph of a trace is well founded**, in every
state that a request can reach. -/
theorem tracePage_wellFounded {requestId : Text} {ops : List SpanOp} {state : SpanState}
    (ran : SpanState.run requestId ops (SpanState.new requestId) = some state)
    (distinct : DistinctReadings ops) :
    IsForest (state.listTraceSpans requestId) ∧
      ∃ fuel,
        (∀ index < (state.listTraceSpans requestId).length, ∃ depth,
          spanDepth fuel index (traceSpanViews (state.listTraceSpans requestId))
            (spanIndexById (traceSpanViews (state.listTraceSpans requestId))) = some depth) ∧
        ∀ trace, ∃ graph, tracePage fuel trace requestId state = some graph ∧
          graph.Draws (traceSpanViews (state.listTraceSpans requestId)) := by
  have derived := run_derived ran
  have ranked := derived.ranked distinct
  have enough : ∀ span ∈ state.listTraceSpans requestId,
      ((started ops).map (·.spanId)).idxOf span.spanId < ((started ops).map (·.spanId)).length :=
    fun span isListed => List.idxOf_lt_length_iff.mpr (derived.mem_ids isListed)
  exact ⟨ranked.isForest, _, fun index inRange => ranked.exists_spanDepth enough inRange,
    ranked.exists_graph enough⟩

/-- What the spans of a test are recorded with. -/
def sampleDetails : SpanDetails where
  name := "request.handle"
  layer := "runtime"
  status := "error"
  attributes := SortedMap.empty
  completedAt := 5
  elapsedMs := 0

/-- A request that is turned away, with a clock that goes on. -/
theorem tracePage_wellFounded_rejected :
    IsForest ((rejectedState "r" 1 2 3 4 sampleDetails sampleDetails).listTraceSpans "r") ∧
      ∃ fuel, ∀ trace, ∃ graph,
        tracePage fuel trace "r" (rejectedState "r" 1 2 3 4 sampleDetails sampleDetails) =
            some graph ∧
          graph.Draws (traceSpanViews
            ((rejectedState "r" 1 2 3 4 sampleDetails sampleDetails).listTraceSpans "r")) := by
  obtain ⟨forest, fuel, -, drawn⟩ :=
    tracePage_wellFounded (run_rejected "r" 1 2 3 4 sampleDetails sampleDetails)
      (by unfold DistinctReadings; decide)
  exact ⟨forest, fuel, drawn⟩

/-! ### A clock that stands still -/

/-- A span that is found under the id of its own parent has no depth, and the page no graph. -/
theorem tracePage_of_own_parent {requestId : Text} {state : SpanState} {index : ℕ}
    (loop : parentIndex (traceSpanViews (state.listTraceSpans requestId)) index = some index)
    (fuel : ℕ) (trace : TraceDetailView) : tracePage fuel trace requestId state = none := by
  generalize isViews : traceSpanViews (state.listTraceSpans requestId) = views at loop
  obtain ⟨view, isView, isParent⟩ := Option.bind_eq_some_iff.mp loop
  obtain ⟨hasParent, -⟩ := Option.ite_none_right_eq_some.mp isParent
  obtain ⟨inRange, -⟩ := List.getElem?_eq_some_iff.mp isView
  have links : views.any (·.hasParentSpanId) = true :=
    List.any_eq_true.mpr ⟨view, List.mem_of_getElem? isView, hasParent⟩
  have noDepths : spanDepths fuel views = none := by
    rw [spanDepths, if_pos links, Option.eq_none_iff_forall_ne_some]
    intro depths isDepths
    obtain ⟨depth, isDepth, -⟩ := getElem?_of_mapM isDepths (List.getElem?_range inRange)
    rw [spanDepth_eq_depth inRange, ParentLinks.depth_of_own_parent loop] at isDepth
    cases isDepth
  have isNonempty : ¬ views.isEmpty = true := by
    rw [List.isEmpty_iff]
    rintro rfl
    cases isView
  rw [tracePage, traceGraphView, isViews, if_neg isNonempty, noDepths]
  rfl

/-- **Where the second span of a request reads the clock as the first did, there is no graph.**
The span is numbered as its parent, and its depth is asked for again and again. -/
theorem tracePage_sameReading {requestId : Text} {requestNow requestStartedAt authnNow
    authnStartedAt : Time} (sameReading : nanosOf authnNow = nanosOf requestNow)
    (later : requestStartedAt < authnStartedAt) (authnDetails requestDetails : SpanDetails)
    (fuel : ℕ) (trace : TraceDetailView) :
    tracePage fuel trace requestId (rejectedState requestId requestNow requestStartedAt authnNow
      authnStartedAt authnDetails requestDetails) = none := by
  have loop : parentIndex (traceSpanViews ((rejectedState requestId requestNow requestStartedAt
      authnNow authnStartedAt authnDetails requestDetails).listTraceSpans requestId)) 1 =
        some 1 := by
    rw [listTraceSpans_rejected later]
    have sameId : newSpanId requestId authnNow = newSpanId requestId requestNow := by
      rw [newSpanId, sameReading, newSpanId]
    have hasParent : (!(newSpanId requestId requestNow).isEmpty) = true := by
      rw [Bool.not_eq_true', List.isEmpty_eq_false_iff]
      exact spanIdOf_ne_nil
    show (if (!(newSpanId requestId requestNow).isEmpty) = true then
      ((SortedMap.empty.insert (newSpanId requestId requestNow) 0).insert
        (newSpanId requestId authnNow) 1).get? (newSpanId requestId requestNow) else none) = some 1
    rw [if_pos hasParent, SortedMap.get?_insert, if_pos sameId.symm]
  exact tracePage_of_own_parent loop fuel trace

/-- Two spans of one number: their ids are the same, and the page has no end. -/
theorem tracePage_rejected_twice :
    ∃ state, SpanState.run "r" (resolveAndRouteSpans (TraceContext.new "r") 1 1 1 2 sampleDetails
        sampleDetails fun _ => []) (SpanState.new "r") = some state ∧
      ¬ ((state.listTraceSpans "r").map (·.spanId)).Nodup ∧
      ∀ fuel trace, tracePage fuel trace "r" state = none := by
  refine ⟨_, run_rejected "r" 1 1 1 2 sampleDetails sampleDetails, ?_,
    tracePage_sameReading rfl (by decide) sampleDetails sampleDetails⟩
  rw [listTraceSpans_rejected (by decide)]
  decide

end Hiraeth

import MusaBackend.MarkerOrder

/-!
What the profiler's markers tell about a stream.

`musa_instrumentation_guard` records the finish marker of a submission after every call
the submission issued, on the queue's stream. So once that marker is complete, every call
issued on the queue's stream up to the end of the submission is done, in every later
trace that does not record the marker's handle again (which, along every run of the
backend, holds while the marker lives).

`musa_event_time_delta` asserts that both markers are complete, asks
`musaEventElapsedTime` for the time from the first to the second and returns it; a
failure is registered, and the duration is still read from `ms`. Along every run of the
backend on a device, of two live markers last recorded on one stream the earlier one is
complete once the later one is, so asking for the time from an earlier marker to a
later one stops at no assertion as soon as the later marker is complete. Where the
device stamps the calls of a stream with times that grow along the stream, a successful
measurement from the earlier marker to the later one is never negative.
-/

namespace MusaBackend

theorem requestedInstrumentations_finish {node : Option DagNode} {now : Nat}
    {start finish recordedStart : Option MusaNodeEvent} {marker : MusaNodeEvent}
    (attached : Instrumentation.executionFinish recordedStart (some marker) ∈
      requestedInstrumentations node now start finish) :
    node.any (·.hints.requestFinishTimestamp) = true ∧ finish = some marker := by
  simp [requestedInstrumentations] at attached
  exact ⟨attached.1, attached.2.2.symm⟩

theorem GuardContract.ends_with_finish_record {device : Device} {stream : Stream}
    {node : Option DagNode} {now : Nat} {before : BackendState} {finishPool : DeviceEvents}
    {body after : List MusaCall} {records : List Instrumentation}
    (contract : GuardContract device stream node now before finishPool body after records)
    {recordedStart : Option MusaNodeEvent} {finish : MusaNodeEvent}
    (attached : Instrumentation.executionFinish recordedStart (some finish) ∈ records) :
    ∃ issued, after = before.trace.calls ++ issued ++ [.eventRecord finish.event stream] := by
  obtain ⟨_, _, startCalls, finishCalls, calls, -, finishShape, rfl⟩ := contract
  obtain ⟨requested, rfl⟩ := requestedInstrumentations_finish attached
  rw [MarkerCalls, if_pos requested] at finishShape
  cases finishShape with
  | recorded made _ _ _ => exact ⟨startCalls ++ body ++ made, by simp [calls]⟩

/-- Under MUSA's in-order stream semantics, once a handle last recorded at the end of
`issued` is complete, every call of `issued` on the record's stream is done. -/
theorem StreamCompletion.done_up_to_last_record {calls issued added : List MusaCall}
    {handle : EventHandle} {stream : Stream} (completion : StreamCompletion calls)
    (extended : calls = issued ++ [.eventRecord handle stream] ++ added)
    (unrecorded : ∀ stream, MusaCall.eventRecord handle stream ∉ added)
    (complete : completion.Complete handle) {position : Nat} (upTo : position ≤ issued.length)
    (onStream : (calls[position]?).bind MusaCall.target = some stream) :
    completion.done position := by
  subst extended
  obtain ⟨recordAt, last, recordDone⟩ := complete
  rw [lastRecord_append_of_unrecorded unrecorded, lastRecord_append_record,
    Option.some_inj] at last
  subst last
  rcases upTo.lt_or_eq with before | rfl
  · have atRecord : ((issued ++ [.eventRecord handle stream] ++ added)[issued.length]?).bind
        MusaCall.target = some stream := by
      rw [List.append_assoc, List.getElem?_append_right (le_refl _), Nat.sub_self,
        List.singleton_append, List.getElem?_cons_zero]
      rfl
    exact completion.inOrder before onStream atRecord recordDone
  · exact recordDone

/-- Whenever a guarded submission whose body only issues calls attaches a finish record
carrying a marker, that marker bounds the submission: in every later trace that does not
record the marker's handle again, once the marker is complete every call issued on the
queue's stream up to the end of the submission is done, for every completion of the trace
that keeps MUSA's in-order stream semantics. -/
theorem guarded_finish_marker_bounds_submission (device : Device) (queue : MusaQueue)
    {Id : Type} {node : Option DagNode} {now : Nat}
    {body : QueueWorld Id → Except Assertion (Result × QueueWorld Id)}
    {world next : QueueWorld Id} {result : Result} {records : List Instrumentation}
    (ran : guarded device queue node now body world = .ok (result, records, next))
    (appends : ∀ started inner bodyResult, body started = .ok (bodyResult, inner) →
      ∃ bodyCalls, inner.events.trace.calls = started.events.trace.calls ++ bodyCalls)
    {start : Option MusaNodeEvent} {finish : MusaNodeEvent}
    (attached : Instrumentation.executionFinish start (some finish) ∈ records)
    {added : List MusaCall}
    (unrecorded : ∀ stream, MusaCall.eventRecord finish.event stream ∉ added)
    (completion : StreamCompletion (next.events.trace.calls ++ added))
    (finishComplete : completion.Complete finish.event) {position : Nat}
    (issued : position < next.events.trace.calls.length)
    (onQueue : ((next.events.trace.calls ++ added)[position]?).bind MusaCall.target =
      some queue.stream) :
    completion.done position := by
  obtain ⟨started, inner, -, bodyRan, contract⟩ := guarded_contract device queue ran
  obtain ⟨bodyCalls, innerCalls⟩ := appends started inner result bodyRan
  obtain ⟨issuedCalls, calls⟩ :=
    (contract bodyCalls innerCalls).ends_with_finish_record attached
  rw [calls, List.length_append, List.length_singleton] at issued
  exact completion.done_up_to_last_record (by rw [calls]) unrecorded finishComplete
    (Nat.lt_succ_iff.mp issued) onQueue

/-- A timed `submit_memset` on a fresh device, followed by a second memset on the same
stream: once its finish marker, handle `1`, is complete, though the later memset is not,
the memset it issued at position `2` is done. -/
theorem guarded_finish_marker_bounds_submission_timedMemset :
    ∃ next, (⟨0, some 7⟩ : MusaQueue).submitMemset deviceSucceeds ⟨4096, 0, 16⟩
        (some timedNode) 0 (QueueWorld.initial 0 : QueueWorld Nat) =
        .ok (.success, [.executionStart (some ⟨0, 0, 0⟩),
          .executionFinish (some ⟨0, 0, 0⟩) (some ⟨1, 0, 1⟩)], next) ∧
      2 < next.events.trace.calls.length ∧
      ((next.events.trace.calls ++ [.memsetAsync 4096 0 16 (some 7)])[2]?).bind
        MusaCall.target = some (some 7) ∧
      (⟨fun position => position < 5, fun less _ _ done => less.trans done⟩ :
        StreamCompletion (next.events.trace.calls ++ [.memsetAsync 4096 0 16 (some 7)])).done 2 := by
  obtain ⟨next, submitted⟩ : ∃ next, (⟨0, some 7⟩ : MusaQueue).submitMemset deviceSucceeds
      ⟨4096, 0, 16⟩ (some timedNode) 0 (QueueWorld.initial 0 : QueueWorld Nat) =
      .ok (.success, [.executionStart (some ⟨0, 0, 0⟩),
        .executionFinish (some ⟨0, 0, 0⟩) (some ⟨1, 0, 1⟩)], next) := ⟨_, rfl⟩
  have issued : 2 < next.events.trace.calls.length := by
    cases submitted
    decide
  have onQueue : ((next.events.trace.calls ++ [.memsetAsync 4096 0 16 (some 7)])[2]?).bind
      MusaCall.target = some (some 7) := by
    cases submitted
    rfl
  have finishComplete : (⟨fun position => position < 5, fun less _ _ done => less.trans done⟩ :
      StreamCompletion (next.events.trace.calls ++ [.memsetAsync 4096 0 16 (some 7)])).Complete 1 := by
    cases submitted
    exact ⟨4, rfl, by decide⟩
  exact ⟨next, submitted, issued, onQueue,
    guarded_finish_marker_bounds_submission deviceSucceeds ⟨0, some 7⟩ submitted
      (fun _ _ _ issuedMemset => ⟨_, by cases issuedMemset; rfl⟩)
      (List.mem_cons_of_mem _ (List.mem_singleton_self _)) (fun _ => by simp)
      _ finishComplete issued onQueue⟩

/-- `musa_event_time_delta::operator()`. `isComplete` answers `is_complete()` of a
marker's event, and `elapsedTime` is `musaEventElapsedTime`: its answer and the duration
it leaves in `ms`, counted in ticks of the profiler clock. -/
def musaEventTimeDelta (isComplete : EventHandle → Bool)
    (elapsedTime : EventHandle → EventHandle → MusaError × Int) (t0 t1 : EventHandle)
    (trace : Trace) : Except Assertion (Int × Trace) :=
  if !isComplete t0 then .error "t0.is_complete()"
  else if !isComplete t1 then .error "t1.is_complete()"
  else
    let measured := elapsedTime t0 t1
    .ok (measured.2,
      if measured.1 ≠ musaSuccess then
        trace.registerError { message := "musa_event_time_delta: musaEventElapsedTime() failed"
                              code := some { component := "MUSA", code := measured.1 } }
      else trace)

theorem musaEventTimeDelta_of_complete {isComplete : EventHandle → Bool}
    (elapsedTime : EventHandle → EventHandle → MusaError × Int) {t0 t1 : EventHandle}
    (firstComplete : isComplete t0 = true) (secondComplete : isComplete t1 = true)
    (trace : Trace) :
    ∃ next, musaEventTimeDelta isComplete elapsedTime t0 t1 trace =
      .ok ((elapsedTime t0 t1).2, next) := by
  simp only [musaEventTimeDelta, firstComplete, secondComplete, Bool.not_true]
  exact ⟨_, rfl⟩

/-- Modelled from MUSA's event timing: when each call of the trace completed, a call of a
stream no earlier than the calls issued before it on that stream. -/
structure TimedCompletion (calls : List MusaCall) extends StreamCompletion calls where
  completedAt : Nat → Int
  monotone : ∀ {earlier later : Nat} {stream : Stream}, earlier < later →
    (calls[earlier]?).bind MusaCall.target = some stream →
    (calls[later]?).bind MusaCall.target = some stream → done later →
    completedAt earlier ≤ completedAt later

/-- `is_complete()` reports an event complete exactly when its latest record is done. -/
def StreamCompletion.Queries {calls : List MusaCall} (completion : StreamCompletion calls)
    (isComplete : EventHandle → Bool) : Prop :=
  ∀ handle, isComplete handle = true ↔ completion.Complete handle

/-- Modelled from MUSA's semantics of `musaEventElapsedTime`: when it succeeds on two
complete events, it measures from the completion of the first one's latest record to the
second one's. -/
def TimedCompletion.Measures {calls : List MusaCall} (completion : TimedCompletion calls)
    (elapsedTime : EventHandle → EventHandle → MusaError × Int) : Prop :=
  ∀ first second firstAt secondAt, lastRecord calls first = some firstAt →
    lastRecord calls second = some secondAt → completion.done firstAt →
    completion.done secondAt → (elapsedTime first second).1 = musaSuccess →
    (elapsedTime first second).2 = completion.completedAt secondAt - completion.completedAt firstAt

section Runs

variable {Id : Type} [DecidableEq Id] (hash : ConfigurationHash Id) (env : LaunchEnvironment)
  (engine : AdaptivityEngine)

/-- Along every run of the backend on a device, for two live markers last recorded on one
stream, the earlier inserted first: once the later one is complete,
`musa_event_time_delta` from the earlier to the later stops at no assertion, and a
successful measurement is never negative, for every timing of the trace that keeps MUSA's
in-order stream semantics. -/
theorem deviceRun_time_delta_in_order {dev : Nat} {world : QueueWorld Id}
    (reached : Relation.ReflTransGen (DeviceStep hash env engine) (QueueWorld.initial dev) world)
    {first second : MusaNodeEvent} (firstLive : first ∈ world.events.pool.markers)
    (secondLive : second ∈ world.events.pool.markers) (earlier : first.id < second.id)
    {stream : Stream} (firstOn : RecordedOn world.events.trace.calls first.event stream)
    (secondOn : RecordedOn world.events.trace.calls second.event stream)
    (completion : TimedCompletion world.events.trace.calls) {isComplete : EventHandle → Bool}
    (queries : completion.Queries isComplete)
    {elapsedTime : EventHandle → EventHandle → MusaError × Int}
    (measures : completion.Measures elapsedTime) (secondComplete : isComplete second.event = true)
    (trace : Trace) :
    ∃ delta next, musaEventTimeDelta isComplete elapsedTime first.event second.event trace =
        .ok (delta, next) ∧
      ((elapsedTime first.event second.event).1 = musaSuccess → 0 ≤ delta) := by
  have order : world.events.RecordOrder :=
    deviceRun_recordOrder hash env engine reached
      ⟨eventRun_accounted .refl, callbackRun_accounted .refl⟩ (fun _ member => nomatch member)
      ⟨fun _ member => (nomatch member), fun _ member => (nomatch member)⟩
  obtain ⟨firstAt, firstLast, firstRecord⟩ := firstOn
  obtain ⟨secondAt, secondLast, secondRecord⟩ := secondOn
  obtain ⟨completedAt, completedLast, secondDone⟩ := (queries second.event).mp secondComplete
  rw [secondLast, Option.some_inj] at completedLast
  subst completedLast
  have before := order.ordered first firstLive second secondLive earlier _ _ firstLast secondLast
  have firstOnStream := congrArg (·.bind MusaCall.target) firstRecord
  have secondOnStream := congrArg (·.bind MusaCall.target) secondRecord
  have firstDone := completion.inOrder before firstOnStream secondOnStream secondDone
  obtain ⟨next, computed⟩ := musaEventTimeDelta_of_complete elapsedTime
    ((queries first.event).mpr ⟨firstAt, firstLast, firstDone⟩) secondComplete trace
  refine ⟨_, next, computed, fun succeeded => ?_⟩
  rw [measures _ _ _ _ firstLast secondLast firstDone secondDone succeeded]
  exact Int.sub_nonneg.mpr (completion.monotone before firstOnStream secondOnStream secondDone)

end Runs

/-- On the marked queue after a memset, with a clock that stamps each call with its
position and a device that has completed the calls up to the inserted marker's record
but not the memset: the delta from the reference event's marker to the inserted one, as
a successful `musaEventElapsedTime` reports it, is never negative. -/
theorem deviceRun_time_delta_in_order_markedQueue :
    (⟨0, 0, 0⟩ : MusaNodeEvent) ∈ markedMemsetWorld.events.pool.markers ∧
      (⟨1, 0, 1⟩ : MusaNodeEvent) ∈ markedMemsetWorld.events.pool.markers ∧
      RecordedOn markedMemsetWorld.events.trace.calls 0 (some 0) ∧
      RecordedOn markedMemsetWorld.events.trace.calls 1 (some 0) ∧
      ∃ delta next, musaEventTimeDelta
          (fun handle => ((lastRecord markedMemsetWorld.events.trace.calls handle).map
            fun position => decide (position < 5)).getD false)
          (fun first second => (musaSuccess,
            ((lastRecord markedMemsetWorld.events.trace.calls second).getD 0 : Int) -
              (lastRecord markedMemsetWorld.events.trace.calls first).getD 0))
          0 1 {} = .ok (delta, next) ∧ 0 ≤ delta := by
  have firstLive : (⟨0, 0, 0⟩ : MusaNodeEvent) ∈ markedMemsetWorld.events.pool.markers :=
    List.mem_cons_self _ _
  have secondLive : (⟨1, 0, 1⟩ : MusaNodeEvent) ∈ markedMemsetWorld.events.pool.markers :=
    List.mem_cons_of_mem _ (List.mem_singleton_self _)
  have firstOn : RecordedOn markedMemsetWorld.events.trace.calls 0 (some 0) := ⟨2, rfl, rfl⟩
  have secondOn : RecordedOn markedMemsetWorld.events.trace.calls 1 (some 0) := ⟨4, rfl, rfl⟩
  let completion : TimedCompletion markedMemsetWorld.events.trace.calls :=
    ⟨⟨fun position => position < 5, fun less _ _ done => less.trans done⟩,
      fun position => position, fun less _ _ _ => Int.ofNat_le.mpr less.le⟩
  have queries : completion.Queries fun handle =>
      ((lastRecord markedMemsetWorld.events.trace.calls handle).map
        fun position => decide (position < 5)).getD false := by
    intro handle
    cases last : lastRecord markedMemsetWorld.events.trace.calls handle <;>
      simp [StreamCompletion.Complete, completion, last]
  have measures : completion.Measures fun first second => (musaSuccess,
      ((lastRecord markedMemsetWorld.events.trace.calls second).getD 0 : Int) -
        (lastRecord markedMemsetWorld.events.trace.calls first).getD 0) :=
    fun _ _ _ _ firstLast secondLast _ _ _ => by simp [firstLast, secondLast, completion]
  obtain ⟨delta, next, computed, nonnegative⟩ :=
    deviceRun_time_delta_in_order ⟨fun _ => 0, fun _ _ _ => 0⟩ (singleTargetEnvironment [])
      uniformEngine markedMemset_reached firstLive secondLive (by decide) firstOn secondOn
      completion queries measures rfl {}
  exact ⟨firstLive, secondLive, firstOn, secondOn, delta, next, computed, nonnegative rfl⟩

end MusaBackend

import MusaBackend.MarkerRecords

/-!
The markers of a queue complete in the order they were inserted.

A marker is complete when its event is, and an event is complete once the work before its
latest `musaEventRecord` is done. MUSA runs the commands of one stream in the order they
were issued; `StreamCompletion` says this of a trace, and it is all the model assumes of
the device. Along every run of the backend on a device, each live marker's handle was last
recorded by a `musaEventRecord` of that handle, and the live markers were last recorded in
the order of their identities, the order in which `insert_event` made them. So of two live
markers recorded on one stream, such as two markers of one queue, the later one is
complete only once the earlier one is: the stream drains its markers in order.
-/

namespace MusaBackend

/-- The position of the last call of `calls` that records `handle`, the first call
standing at `position`. -/
def lastRecordFrom (handle : EventHandle) : Nat → List MusaCall → Option Nat
  | _, [] => none
  | position, call :: rest =>
      (lastRecordFrom handle (position + 1) rest).or
        (if call.recordedEvent = some handle then some position else none)

/-- The position in the trace of the latest `musaEventRecord` of `handle`. -/
def lastRecord (calls : List MusaCall) (handle : EventHandle) : Option Nat :=
  lastRecordFrom handle 0 calls

theorem lastRecordFrom_append (handle : EventHandle) (position : Nat)
    (first second : List MusaCall) :
    lastRecordFrom handle position (first ++ second) =
      (lastRecordFrom handle (position + first.length) second).or
        (lastRecordFrom handle position first) := by
  induction first generalizing position with
  | nil => exact Option.or_none.symm
  | cons call rest more =>
      simp only [List.cons_append, lastRecordFrom.eq_2, more, Option.or_assoc, List.length_cons]
      rw [Nat.add_right_comm]
      rfl

theorem lastRecordFrom_of_unrecorded {handle : EventHandle} {calls : List MusaCall}
    (unrecorded : ∀ call ∈ calls, call.recordedEvent ≠ some handle) (position : Nat) :
    lastRecordFrom handle position calls = none := by
  induction calls generalizing position with
  | nil => rfl
  | cons call rest more =>
      rw [lastRecordFrom, more (fun other member => unrecorded other (.tail _ member)),
        if_neg (unrecorded call (.head _))]
      rfl

theorem lastRecord_append_of_unheld {markers : List MusaNodeEvent} {calls added : List MusaCall}
    (unheld : ∀ call ∈ added, RecordsUnheld markers call) {marker : MusaNodeEvent}
    (live : marker ∈ markers) :
    lastRecord (calls ++ added) marker.event = lastRecord calls marker.event := by
  rw [lastRecord, lastRecordFrom_append, lastRecordFrom_of_unrecorded
    (fun call member recorded => unheld call member _ recorded marker live rfl)]
  exact Option.none_or

theorem lastRecord_append_of_unrecorded {calls added : List MusaCall} {handle : EventHandle}
    (unrecorded : ∀ stream, MusaCall.eventRecord handle stream ∉ added) :
    lastRecord (calls ++ added) handle = lastRecord calls handle := by
  rw [lastRecord, lastRecordFrom_append, lastRecordFrom_of_unrecorded fun call member recorded => ?_]
  · exact Option.none_or
  cases call
  case eventRecord event stream =>
    cases recorded
    exact unrecorded stream member
  all_goals cases recorded

theorem lastRecord_append_record (calls : List MusaCall) (handle : EventHandle)
    (stream : Stream) :
    lastRecord (calls ++ [.eventRecord handle stream]) handle = some calls.length := by
  rw [lastRecord, lastRecordFrom_append]
  simp [lastRecordFrom, MusaCall.recordedEvent]

/-- Each live marker's handle was last recorded by a `musaEventRecord` of it, and the live
markers were last recorded in the order of their identities. -/
structure BackendState.RecordOrder (state : BackendState) : Prop where
  recorded : ∀ marker ∈ state.pool.markers, ∃ position stream,
    lastRecord state.trace.calls marker.event = some position ∧
      state.trace.calls[position]? = some (.eventRecord marker.event stream)
  ordered : ∀ first ∈ state.pool.markers, ∀ second ∈ state.pool.markers,
    first.id < second.id → ∀ firstAt secondAt,
      lastRecord state.trace.calls first.event = some firstAt →
      lastRecord state.trace.calls second.event = some secondAt → firstAt < secondAt

namespace BackendState.RecordOrder

theorem of_unheld {before after : BackendState} (order : before.RecordOrder)
    (subset : ∀ marker ∈ after.pool.markers, marker ∈ before.pool.markers)
    (appends : Appends (RecordsUnheld before.pool.markers) before.trace.calls after.trace.calls) :
    after.RecordOrder := by
  obtain ⟨added, calls, unheld⟩ := appends
  have sameLast : ∀ marker ∈ before.pool.markers,
      lastRecord after.trace.calls marker.event = lastRecord before.trace.calls marker.event :=
    fun _ live => calls ▸ lastRecord_append_of_unheld unheld live
  refine ⟨fun marker live => ?_, fun first firstLive second secondLive => ?_⟩
  · obtain ⟨position, stream, last, recordAt⟩ := order.recorded marker (subset marker live)
    refine ⟨position, stream, (sameLast marker (subset marker live)).trans last, ?_⟩
    rw [calls, List.getElem?_append_left (List.getElem?_eq_some_iff.mp recordAt).1]
    exact recordAt
  · rw [sameLast first (subset first firstLive), sameLast second (subset second secondLive)]
    exact order.ordered first (subset first firstLive) second (subset second secondLive)

theorem record {before after : BackendState} {marker : MusaNodeEvent} {stream : Stream}
    (order : before.RecordOrder) (fresh : before.pool.MarkersFresh)
    (markers : after.pool.markers = before.pool.markers ++ [marker])
    (calls : after.trace.calls = before.trace.calls ++ [.eventRecord marker.event stream])
    (newest : before.pool.nextMarker ≤ marker.id)
    (unheld : RecordsUnheld before.pool.markers (.eventRecord marker.event stream)) :
    after.RecordOrder := by
  have kept : ({ after with pool := before.pool } : BackendState).RecordOrder :=
    order.of_unheld (fun _ => id) (calls ▸ .single _ unheld)
  have newLast : lastRecord after.trace.calls marker.event = some before.trace.calls.length := by
    rw [calls]
    exact lastRecord_append_record _ _ _
  have oldEarlier : ∀ old ∈ before.pool.markers, ∀ oldAt,
      lastRecord after.trace.calls old.event = some oldAt → oldAt < before.trace.calls.length := by
    intro old live oldAt oldLast
    obtain ⟨position, _, last, recordAt⟩ := order.recorded old live
    rw [calls, lastRecord_append_of_unheld (List.forall_mem_singleton.mpr unheld) live, last,
      Option.some_inj] at oldLast
    exact oldLast ▸ (List.getElem?_eq_some_iff.mp recordAt).1
  refine ⟨fun live member => ?_, fun first firstLive second secondLive earlier => ?_⟩
  · rcases List.mem_append.mp (markers ▸ member) with old | new
    · exact kept.recorded live old
    · rw [List.mem_singleton.mp new]
      exact ⟨_, stream, newLast, calls ▸ List.getElem?_concat_length _ _⟩
  rcases List.mem_append.mp (markers ▸ firstLive) with firstOld | firstNew <;>
    rcases List.mem_append.mp (markers ▸ secondLive) with secondOld | secondNew
  case inl.inl => exact kept.ordered first firstOld second secondOld earlier
  case inl.inr =>
    rw [List.mem_singleton.mp secondNew, newLast]
    rintro firstAt _ firstLast ⟨⟩
    exact oldEarlier first firstOld firstAt firstLast
  case inr.inl =>
    have := fresh second secondOld
    rw [List.mem_singleton.mp firstNew] at earlier
    omega
  case inr.inr =>
    rw [List.mem_singleton.mp firstNew, List.mem_singleton.mp secondNew] at earlier
    exact absurd earlier (lt_irrefl _)

end BackendState.RecordOrder

theorem insertEvent_recordOrder (device : Device) (stream : Stream) {state : BackendState}
    (accounted : state.pool.Accounted) (fresh : state.pool.MarkersFresh)
    (order : state.RecordOrder) : (insertEvent device stream state).2.RecordOrder := by
  have obtainedGrows := obtainEvent_grows device state
  rcases obtained : state.obtainEvent device with ⟨_ | handle, next⟩ <;>
    rw [obtained] at obtainedGrows
  · rw [insertEvent_of_failed obtained]
    exact order.of_unheld (fun _ member => obtainEvent_error_pool obtained ▸ member)
      obtainedGrows.calls
  obtain ⟨-, -, sameMarkers⟩ := obtainEvent_ok_placed accounted obtained
  have obtainedOrder : next.RecordOrder :=
    order.of_unheld (fun _ member => sameMarkers ▸ member) obtainedGrows.calls
  have unheld := obtainEvent_ok_unheld accounted obtained stream
  obtain ⟨-, _, recordFailed⟩ | ⟨-, recorded⟩ := insertEvent_of_obtained stream obtained
  · rw [recordFailed]
    exact obtainedOrder.of_unheld (fun _ => id) (.single _ unheld)
  · rw [recorded]
    exact obtainedOrder.record (obtainedGrows.fresh fresh) rfl rfl (le_refl _) unheld

section Runs

variable {Id : Type} [DecidableEq Id] (hash : ConfigurationHash Id) (env : LaunchEnvironment)
  (engine : AdaptivityEngine)

theorem QueueOperation.run_recordOrder (queue : MusaQueue) {device : Device} {win32 : Bool}
    {now : Nat} {world next : QueueWorld Id} {operation : QueueOperation}
    (ran : operation.run hash env engine queue device win32 now world = .ok next)
    (accounted : world.events.pool.Accounted) (fresh : world.events.pool.MarkersFresh)
    (order : world.events.RecordOrder) : next.events.RecordOrder :=
  (QueueOperation.run_induction hash env engine queue
    (fun after => after.events.pool.Accounted ∧ after.events.pool.MarkersFresh ∧
      after.events.RecordOrder)
    (fun _ ⟨accounted, fresh, order⟩ => ⟨insertEvent_accounted device queue.stream accounted,
      (insertEvent_grows device queue.stream accounted).fresh fresh,
      insertEvent_recordOrder device queue.stream accounted fresh order⟩)
    (fun _ _ samePool _ added ⟨accounted, fresh, order⟩ =>
      ⟨samePool ▸ accounted, samePool ▸ fresh, order.of_unheld
        (fun _ member => samePool ▸ member) (added.mono fun _ call => .of_unrecorded call.1)⟩)
    (fun _ node ⟨accounted, fresh, order⟩ => ⟨accounted, fresh, order.of_unheld (fun _ => id)
      (by
        rw [QueueWorld.withTrace_trace, submitExternalWaitFor_calls]
        exact .single _ (.of_unrecorded rfl))⟩)
    ran ⟨accounted, fresh, order⟩).2.2

theorem QueueStep.recordOrder (queue : MusaQueue) {world next : QueueWorld Id}
    (step : QueueStep hash env engine queue world next)
    (accounted : world.events.pool.Accounted) (fresh : world.events.pool.MarkersFresh)
    (order : world.events.RecordOrder) : next.events.RecordOrder := by
  cases step with
  | operate _ _ _ _ ran =>
      exact QueueOperation.run_recordOrder hash env engine queue ran accounted fresh order
  | release _ marker live => exact order.of_unheld (fun _ => List.mem_of_mem_erase) (.refl _)
  | callback => exact order.of_unheld (fun _ => id) (.of_eq (HostCallbacks.invoke_calls ..))

theorem DeviceStep.recordOrder {world next : QueueWorld Id}
    (step : DeviceStep hash env engine world next)
    (accounted : world.events.pool.Accounted) (fresh : world.events.pool.MarkersFresh)
    (order : world.events.RecordOrder) : next.events.RecordOrder := by
  cases step with
  | create device priority =>
      have createCall : RecordsUnheld world.events.pool.markers (streamCreateCall priority) :=
        .of_unrecorded (streamCreateCall_recordedEvent priority)
      rcases MusaQueue.create_world device world.events.pool.device priority world with
        ⟨_, calls, constructed⟩ | ⟨stream, trace, calls, constructed⟩ <;> rw [constructed]
      · exact order.of_unheld (fun _ => id) (calls ▸ .single _ createCall)
      · have created : ({ world.events with trace } : BackendState).RecordOrder :=
          order.of_unheld (fun _ => id) (calls ▸ .single _ createCall)
        exact insertEvent_recordOrder device stream accounted fresh created
  | queue queue step => exact step.recordOrder hash env engine queue accounted fresh order
  | destroy device queue =>
      exact order.of_unheld (fun _ => id)
        (MusaQueue.destroy_calls device queue world ▸ .single _ (.of_unrecorded rfl))

theorem deviceRun_recordOrder {world next : QueueWorld Id}
    (run : Relation.ReflTransGen (DeviceStep hash env engine) world next)
    (accounted : world.Accounted) (fresh : world.events.pool.MarkersFresh)
    (order : world.events.RecordOrder) : next.events.RecordOrder := by
  induction run with
  | refl => exact order
  | tail previous step more =>
      exact step.recordOrder hash env engine
        (deviceRun_keeps_accounted hash env engine previous accounted).events
        (deviceRun_markersFresh hash env engine previous accounted fresh).1 more

end Runs

/-- The latest record of `handle` in `calls` is a `musaEventRecord` on `stream`. -/
def RecordedOn (calls : List MusaCall) (handle : EventHandle) (stream : Stream) : Prop :=
  ∃ position, lastRecord calls handle = some position ∧
    calls[position]? = some (.eventRecord handle stream)

/-- Modelled from MUSA's stream semantics: which calls of a trace the device has
completed, where a call completes only after every call issued before it on its stream. -/
structure StreamCompletion (calls : List MusaCall) where
  done : Nat → Prop
  inOrder : ∀ {earlier later : Nat} {stream : Stream}, earlier < later →
    (calls[earlier]?).bind MusaCall.target = some stream →
    (calls[later]?).bind MusaCall.target = some stream → done later → done earlier

/-- An event is complete once its latest record is: what `musaEventQuery` reports and what
`musaStreamWaitEvent` waits for. -/
def StreamCompletion.Complete {calls : List MusaCall} (completion : StreamCompletion calls)
    (handle : EventHandle) : Prop :=
  ∃ position, lastRecord calls handle = some position ∧ completion.done position

section Runs

variable {Id : Type} [DecidableEq Id] (hash : ConfigurationHash Id) (env : LaunchEnvironment)
  (engine : AdaptivityEngine)

/-- Along every run of the backend on a device, whatever queues it constructs and in
whatever interleaving they work, of two live markers last recorded on one stream the one
inserted later is complete only once the earlier one is, for every completion of the trace
that keeps MUSA's in-order stream semantics: the stream drains its markers in the order
they were inserted. -/
theorem deviceRun_markers_complete_in_order {dev : Nat} {world : QueueWorld Id}
    (reached : Relation.ReflTransGen (DeviceStep hash env engine) (QueueWorld.initial dev) world)
    {first second : MusaNodeEvent} (firstLive : first ∈ world.events.pool.markers)
    (secondLive : second ∈ world.events.pool.markers) (earlier : first.id < second.id)
    {stream : Stream} (firstOn : RecordedOn world.events.trace.calls first.event stream)
    (secondOn : RecordedOn world.events.trace.calls second.event stream)
    (completion : StreamCompletion world.events.trace.calls)
    (secondComplete : completion.Complete second.event) : completion.Complete first.event := by
  have order : world.events.RecordOrder :=
    deviceRun_recordOrder hash env engine reached
      ⟨eventRun_accounted .refl, callbackRun_accounted .refl⟩ (fun _ member => nomatch member)
      ⟨fun _ member => (nomatch member), fun _ member => (nomatch member)⟩
  obtain ⟨firstAt, firstLast, firstRecord⟩ := firstOn
  obtain ⟨secondAt, secondLast, secondRecord⟩ := secondOn
  obtain ⟨completedAt, completedLast, done⟩ := secondComplete
  rw [secondLast, Option.some_inj] at completedLast
  subst completedLast
  exact ⟨firstAt, firstLast, completion.inOrder
    (order.ordered first firstLive second secondLive earlier _ _ firstLast secondLast)
    (congrArg (·.bind MusaCall.target) firstRecord)
    (congrArg (·.bind MusaCall.target) secondRecord) done⟩

end Runs

def markedQueueWorld : QueueWorld Nat :=
  let constructed := MusaQueue.create deviceSucceeds 0 0 (QueueWorld.initial 0 : QueueWorld Nat)
  { constructed.2 with
    events := (insertEvent deviceSucceeds constructed.1.stream constructed.2.events).2 }

def markedMemsetWorld : QueueWorld Nat :=
  markedQueueWorld.withTrace
    (markedQueueWorld.events.trace.issue deviceSucceeds (.memsetAsync 4096 0 16 (some 0))).2

theorem markedMemset_reached :
    Relation.ReflTransGen (DeviceStep (⟨fun _ => 0, fun _ _ _ => 0⟩ : ConfigurationHash Nat)
      (singleTargetEnvironment []) uniformEngine) (QueueWorld.initial 0) markedMemsetWorld := by
  have marked : Relation.ReflTransGen (DeviceStep (⟨fun _ => 0, fun _ _ _ => 0⟩ :
      ConfigurationHash Nat) (singleTargetEnvironment []) uniformEngine) (QueueWorld.initial 0)
      markedQueueWorld :=
    (Relation.ReflTransGen.single (.create deviceSucceeds 0 _)).tail
      (.queue _ (.operate deviceSucceeds false 0 .insertEvent rfl))
  exact marked.tail (.queue
    (MusaQueue.create deviceSucceeds 0 0 (QueueWorld.initial 0 : QueueWorld Nat)).1
    (.operate deviceSucceeds false 0 (.submitMemset ⟨4096, 0, 16⟩ none) rfl))

/-- On a constructed queue, the reference event's marker and an inserted marker are both
recorded on the queue's stream; once the device has completed the calls up to the
inserted marker's record, but not the memset after it, both markers are complete. -/
theorem deviceRun_markers_complete_in_order_markedQueue :
    (⟨0, 0, 0⟩ : MusaNodeEvent) ∈ markedMemsetWorld.events.pool.markers ∧
      (⟨1, 0, 1⟩ : MusaNodeEvent) ∈ markedMemsetWorld.events.pool.markers ∧
      RecordedOn markedMemsetWorld.events.trace.calls 0 (some 0) ∧
      RecordedOn markedMemsetWorld.events.trace.calls 1 (some 0) ∧
      (⟨fun position => position < 5, fun less _ _ done => less.trans done⟩ :
        StreamCompletion markedMemsetWorld.events.trace.calls).Complete 0 := by
  have firstLive : (⟨0, 0, 0⟩ : MusaNodeEvent) ∈ markedMemsetWorld.events.pool.markers :=
    List.mem_cons_self _ _
  have secondLive : (⟨1, 0, 1⟩ : MusaNodeEvent) ∈ markedMemsetWorld.events.pool.markers :=
    List.mem_cons_of_mem _ (List.mem_singleton_self _)
  have firstOn : RecordedOn markedMemsetWorld.events.trace.calls 0 (some 0) := ⟨2, rfl, rfl⟩
  have secondOn : RecordedOn markedMemsetWorld.events.trace.calls 1 (some 0) := ⟨4, rfl, rfl⟩
  exact ⟨firstLive, secondLive, firstOn, secondOn,
    deviceRun_markers_complete_in_order ⟨fun _ => 0, fun _ _ _ => 0⟩ (singleTargetEnvironment [])
      uniformEngine markedMemset_reached firstLive secondLive (by decide) firstOn secondOn _
      ⟨4, rfl, by decide⟩⟩

end MusaBackend

import MusaBackend.QueueAccounting
import MusaBackend.Instrumentation
import MusaBackend.ContentAddressing

/-!
A marker is never recorded again while it lives.

`submit_queue_wait_for` makes the queue's stream wait for the latest record of a
marker's event handle, so it waits for the marker's own work only if nothing records
that handle again while the marker lives. All queues of a device share its event pool,
and the pool hands handles out again once their markers are destroyed. Every
`insert_event` records a handle that no live marker holds, because the pool's accounting
keeps free, held and lost handles apart; and marker identities are never handed out
twice, so a marker live at two points of a run is live in between. Along every run of
the backend on a device, whatever queues it constructs and in whatever interleaving they
work, no call made between two points at which a marker is live records its handle.
-/

namespace MusaBackend

/-- `call` records no handle that one of `markers` holds. -/
def RecordsUnheld (markers : List MusaNodeEvent) (call : MusaCall) : Prop :=
  ∀ handle, call.recordedEvent = some handle → ∀ marker ∈ markers, marker.event ≠ handle

theorem RecordsUnheld.of_unrecorded {markers : List MusaNodeEvent} {call : MusaCall}
    (unrecorded : call.recordedEvent = none) : RecordsUnheld markers call := by
  intro handle recorded
  rw [unrecorded] at recorded
  cases recorded

theorem RecordsUnheld.mono {markers fewer : List MusaNodeEvent} {call : MusaCall}
    (unheld : RecordsUnheld markers call) (subset : ∀ marker ∈ fewer, marker ∈ markers) :
    RecordsUnheld fewer call :=
  fun handle recorded marker member => unheld handle recorded marker (subset marker member)

/-- How one step of a run may change the device's events: its calls record no handle a
live marker held before it, and every marker after it was live before it or carries an
identity handed out during it. -/
structure BackendState.Evolves (before after : BackendState) : Prop where
  calls : Appends (RecordsUnheld before.pool.markers) before.trace.calls after.trace.calls
  added : ∀ marker ∈ after.pool.markers, marker ∈ before.pool.markers ∨
    before.pool.nextMarker ≤ marker.id ∧ marker.id < after.pool.nextMarker
  nextMarker : before.pool.nextMarker ≤ after.pool.nextMarker

/-- Within one operation no marker is destroyed: the events evolve and keep every
marker. -/
structure BackendState.Grows (before after : BackendState) extends
    before.Evolves after : Prop where
  kept : ∀ marker ∈ before.pool.markers, marker ∈ after.pool.markers

/-- Every live marker's identity lies below the next identity the pool hands out. -/
def DeviceEvents.MarkersFresh (pool : DeviceEvents) : Prop :=
  ∀ marker ∈ pool.markers, marker.id < pool.nextMarker

theorem BackendState.Evolves.fresh {before after : BackendState}
    (evolves : before.Evolves after) (fresh : before.pool.MarkersFresh) :
    after.pool.MarkersFresh := by
  intro marker member
  rcases evolves.added marker member with old | ⟨-, high⟩
  · exact (fresh marker old).trans_le evolves.nextMarker
  · exact high

namespace BackendState.Grows

theorem refl (state : BackendState) : state.Grows state :=
  ⟨⟨.refl _, fun _ => .inl, le_refl _⟩, fun _ => id⟩

theorem trans {first second third : BackendState} (head : first.Grows second)
    (tail : second.Grows third) : first.Grows third := by
  refine ⟨⟨head.calls.trans (tail.calls.mono fun _ unheld => unheld.mono head.kept),
    fun marker member => ?_, head.nextMarker.trans tail.nextMarker⟩,
    fun marker member => tail.kept marker (head.kept marker member)⟩
  have := head.nextMarker
  have := tail.nextMarker
  rcases tail.added marker member with old | ⟨_, _⟩
  · rcases head.added marker old with older | ⟨_, _⟩
    · exact .inl older
    · exact .inr ⟨by omega, by omega⟩
  · exact .inr ⟨by omega, by omega⟩

theorem of_unrecorded {before after : BackendState}
    (sameMarkers : after.pool.markers = before.pool.markers)
    (sameNext : after.pool.nextMarker = before.pool.nextMarker)
    (appends : Appends (·.recordedEvent = none) before.trace.calls after.trace.calls) :
    before.Grows after :=
  ⟨⟨appends.mono fun _ => RecordsUnheld.of_unrecorded,
    fun _ member => .inl (sameMarkers ▸ member), sameNext ▸ le_refl _⟩,
    fun _ member => sameMarkers ▸ member⟩

end BackendState.Grows

theorem obtainEvent_grows (device : Device) (state : BackendState) :
    state.Grows (state.obtainEvent device).2 := by
  rcases obtainEvent_cases device state with ⟨_, _, -, reused⟩ | ⟨-, -, made⟩ | ⟨_, -, -, failed⟩
  · rw [reused]
    exact .of_unrecorded rfl rfl (.refl _)
  · rw [made]
    exact .of_unrecorded rfl rfl (.single _ rfl)
  · rw [failed]
    exact .of_unrecorded rfl rfl (.single _ rfl)

theorem obtainEvent_ok_unheld {device : Device} {state next : BackendState}
    {handle : EventHandle} (accounted : state.pool.Accounted)
    (obtained : state.obtainEvent device = (.ok handle, next)) (stream : Stream) :
    RecordsUnheld next.pool.markers (.eventRecord handle stream) := by
  rintro _ ⟨⟩ marker member rfl
  apply (List.nodup_cons.mp ((obtainEvent_ok_placed accounted obtained).1.nodup_iff.mpr
    (List.nodup_range _))).1
  simp only [DeviceEvents.held, List.mem_append, List.mem_map]
  exact .inl (.inr ⟨marker, member, rfl⟩)

theorem insertEvent_grows (device : Device) (stream : Stream) {state : BackendState}
    (accounted : state.pool.Accounted) : state.Grows (insertEvent device stream state).2 := by
  have obtainedGrows := obtainEvent_grows device state
  rcases obtained : state.obtainEvent device with ⟨_ | handle, next⟩ <;>
    rw [obtained] at obtainedGrows
  · rw [insertEvent_of_failed obtained]
    exact ⟨⟨obtainedGrows.calls, obtainedGrows.added, obtainedGrows.nextMarker⟩,
      obtainedGrows.kept⟩
  have unheld := obtainEvent_ok_unheld accounted obtained stream
  obtain ⟨-, _, recordFailed⟩ | ⟨-, recorded⟩ := insertEvent_of_obtained stream obtained
  · rw [recordFailed]
    exact obtainedGrows.trans ⟨⟨.single _ unheld, fun _ => .inl, le_refl _⟩, fun _ => id⟩
  · rw [recorded]
    refine obtainedGrows.trans ⟨⟨.single _ unheld, fun marker member => ?_, Nat.le_succ _⟩,
      fun _ => List.mem_append_left _⟩
    rcases List.mem_append.mp member with old | new
    · exact .inl old
    · rw [List.mem_singleton.mp new]
      exact .inr ⟨le_refl _, Nat.lt_succ_self _⟩

theorem streamCreateCall_recordedEvent (priority : Int) :
    (streamCreateCall priority).recordedEvent = none := by
  unfold streamCreateCall
  split <;> rfl

theorem MusaQueue.create_grows {Id : Type} (device : Device) (dev : Nat) (priority : Int)
    {world : QueueWorld Id} (accounted : world.events.pool.Accounted) :
    world.events.Grows (MusaQueue.create device dev priority world).2.events := by
  have createCall := streamCreateCall_recordedEvent priority
  rcases MusaQueue.create_world device dev priority world with
    ⟨_, calls, constructed⟩ | ⟨stream, trace, calls, constructed⟩ <;> rw [constructed]
  · exact .of_unrecorded rfl rfl (calls ▸ .single _ createCall)
  · have created : world.events.Grows { world.events with trace } :=
      .of_unrecorded rfl rfl (calls ▸ .single _ createCall)
    exact created.trans (insertEvent_grows device stream accounted)

theorem MusaQueue.destroy_grows {Id : Type} (device : Device) (queue : MusaQueue)
    (world : QueueWorld Id) : world.events.Grows (queue.destroy device world).events :=
  .of_unrecorded rfl rfl (MusaQueue.destroy_calls device queue world ▸ .single _ rfl)

section Runs

variable {Id : Type} [DecidableEq Id] (hash : ConfigurationHash Id) (env : LaunchEnvironment)
  (engine : AdaptivityEngine)

theorem QueueOperation.run_grows (queue : MusaQueue) {device : Device} {win32 : Bool}
    {now : Nat} {world next : QueueWorld Id} {operation : QueueOperation}
    (ran : operation.run hash env engine queue device win32 now world = .ok next)
    (accounted : world.events.pool.Accounted) : world.events.Grows next.events :=
  (QueueOperation.run_induction hash env engine queue
    (fun after => world.events.Grows after.events ∧ after.events.pool.Accounted)
    (fun _ ⟨grown, accounted⟩ => ⟨grown.trans (insertEvent_grows device queue.stream accounted),
      insertEvent_accounted device queue.stream accounted⟩)
    (fun _ _ samePool _ added ⟨grown, accounted⟩ =>
      ⟨grown.trans (.of_unrecorded (congrArg DeviceEvents.markers samePool)
        (congrArg DeviceEvents.nextMarker samePool) (added.mono fun _ call => call.1)),
        samePool ▸ accounted⟩)
    (fun _ node ⟨grown, accounted⟩ => ⟨grown.trans (.of_unrecorded rfl rfl (by
      rw [QueueWorld.withTrace_trace, submitExternalWaitFor_calls]
      exact .single _ rfl)), accounted⟩)
    ran ⟨.refl _, accounted⟩).1

theorem QueueStep.evolves (queue : MusaQueue) {world next : QueueWorld Id}
    (step : QueueStep hash env engine queue world next)
    (accounted : world.events.pool.Accounted) : world.events.Evolves next.events := by
  cases step with
  | operate _ _ _ _ ran => exact (QueueOperation.run_grows hash env engine queue ran accounted).1
  | release _ marker live =>
      exact ⟨.refl _, fun _ member => .inl (List.mem_of_mem_erase member), le_refl _⟩
  | callback => exact ⟨.of_eq (HostCallbacks.invoke_calls ..), fun _ => .inl, le_refl _⟩

theorem DeviceStep.evolves {world next : QueueWorld Id}
    (step : DeviceStep hash env engine world next) (accounted : world.events.pool.Accounted) :
    world.events.Evolves next.events := by
  cases step with
  | create device priority => exact (MusaQueue.create_grows device _ priority accounted).1
  | queue queue step => exact step.evolves hash env engine queue accounted
  | destroy device queue => exact (MusaQueue.destroy_grows device queue world).1

theorem deviceRun_markersFresh {world next : QueueWorld Id}
    (run : Relation.ReflTransGen (DeviceStep hash env engine) world next)
    (accounted : world.Accounted) (fresh : world.events.pool.MarkersFresh) :
    next.events.pool.MarkersFresh ∧ world.events.pool.nextMarker ≤ next.events.pool.nextMarker := by
  induction run with
  | refl => exact ⟨fresh, le_refl _⟩
  | tail previous step more =>
      have evolves := step.evolves hash env engine
        (deviceRun_keeps_accounted hash env engine previous accounted).events
      exact ⟨evolves.fresh more.1, more.2.trans evolves.nextMarker⟩

/-- Between two points of a run at which a marker is live, no call records its handle. -/
theorem deviceRun_live_marker_unrecorded {world next : QueueWorld Id}
    (run : Relation.ReflTransGen (DeviceStep hash env engine) world next)
    (accounted : world.Accounted) (fresh : world.events.pool.MarkersFresh)
    {marker : MusaNodeEvent} (liveBefore : marker ∈ world.events.pool.markers)
    (liveAfter : marker ∈ next.events.pool.markers) :
    ∃ added, next.events.trace.calls = world.events.trace.calls ++ added ∧
      ∀ stream, MusaCall.eventRecord marker.event stream ∉ added := by
  induction run with
  | refl => exact ⟨[], by simp, by simp⟩
  | tail previous step more =>
      have evolves := step.evolves hash env engine
        (deviceRun_keeps_accounted hash env engine previous accounted).events
      have grown := (deviceRun_markersFresh hash env engine previous accounted fresh).2
      have liveBetween := fresh marker liveBefore
      have liveMiddle := (evolves.added marker liveAfter).resolve_right fun ⟨low, _⟩ => by omega
      obtain ⟨added, calls, unrecorded⟩ := more liveMiddle
      obtain ⟨later, laterCalls, unheld⟩ := evolves.calls
      refine ⟨added ++ later, by rw [laterCalls, calls, List.append_assoc], fun stream member => ?_⟩
      rcases List.mem_append.mp member with early | late
      · exact unrecorded stream early
      · exact unheld _ late marker.event rfl marker liveMiddle rfl

/-- Along every run of the backend on a device, whatever queues it constructs and
destroys, in whatever interleaving their operations come and whatever the device
answers, a marker is never recorded again while it lives: between two points of the run
at which a marker is live, no call records its event handle, on any stream. A wait on a
live marker's event therefore waits on the marker's own record. -/
theorem deviceRun_live_marker_not_rerecorded {dev : Nat} {world next : QueueWorld Id}
    (reached : Relation.ReflTransGen (DeviceStep hash env engine) (QueueWorld.initial dev) world)
    (run : Relation.ReflTransGen (DeviceStep hash env engine) world next)
    {marker : MusaNodeEvent} (liveBefore : marker ∈ world.events.pool.markers)
    (liveAfter : marker ∈ next.events.pool.markers) :
    ∃ added, next.events.trace.calls = world.events.trace.calls ++ added ∧
      ∀ stream, MusaCall.eventRecord marker.event stream ∉ added := by
  have initial : (QueueWorld.initial dev : QueueWorld Id).Accounted :=
    ⟨eventRun_accounted .refl, callbackRun_accounted .refl⟩
  have initialFresh : (QueueWorld.initial dev : QueueWorld Id).events.pool.MarkersFresh :=
    fun _ member => by cases member
  exact deviceRun_live_marker_unrecorded hash env engine run
    (deviceRun_keeps_accounted hash env engine reached initial)
    (deviceRun_markersFresh hash env engine reached initial initialFresh).1 liveBefore liveAfter

end Runs

/-- A queue constructed on a fresh device, then a memset with start and finish timestamps:
the memset records two new markers while the reference event's marker, handle `0`, stays
live and is not recorded again. -/
theorem deviceRun_live_marker_not_rerecorded_timedMemset :
    ∃ next, (QueueOperation.submitMemset ⟨4096, 0, 16⟩ (some timedNode)).run
        (⟨fun _ => 0, fun _ _ _ => 0⟩ : ConfigurationHash Nat) (singleTargetEnvironment [])
        uniformEngine (MusaQueue.create deviceSucceeds 0 0 (QueueWorld.initial 0 : QueueWorld Nat)).1
        deviceSucceeds false 0
        (MusaQueue.create deviceSucceeds 0 0 (QueueWorld.initial 0 : QueueWorld Nat)).2 = .ok next ∧
      (⟨0, 0, 0⟩ : MusaNodeEvent) ∈
        (MusaQueue.create deviceSucceeds 0 0 (QueueWorld.initial 0 : QueueWorld Nat)).2.events.pool.markers ∧
      (⟨0, 0, 0⟩ : MusaNodeEvent) ∈ next.events.pool.markers ∧
      ∃ added, next.events.trace.calls =
          (MusaQueue.create deviceSucceeds 0 0 (QueueWorld.initial 0 : QueueWorld Nat)).2.events.trace.calls ++
            added ∧
        ∀ stream, MusaCall.eventRecord 0 stream ∉ added := by
  have liveBefore : (⟨0, 0, 0⟩ : MusaNodeEvent) ∈
      (MusaQueue.create deviceSucceeds 0 0 (QueueWorld.initial 0 : QueueWorld Nat)).2.events.pool.markers :=
    List.mem_singleton.mpr rfl
  obtain ⟨next, ran⟩ : ∃ next, (QueueOperation.submitMemset ⟨4096, 0, 16⟩ (some timedNode)).run
      (⟨fun _ => 0, fun _ _ _ => 0⟩ : ConfigurationHash Nat) (singleTargetEnvironment [])
      uniformEngine (MusaQueue.create deviceSucceeds 0 0 (QueueWorld.initial 0 : QueueWorld Nat)).1
      deviceSucceeds false 0
      (MusaQueue.create deviceSucceeds 0 0 (QueueWorld.initial 0 : QueueWorld Nat)).2 = .ok next :=
    ⟨_, rfl⟩
  have liveAfter := (QueueOperation.run_grows _ _ _ _ ran
    (MusaQueue.create_accounted deviceSucceeds 0 0
      ⟨eventRun_accounted .refl, callbackRun_accounted .refl⟩).events).kept _ liveBefore
  exact ⟨next, ran, liveBefore, liveAfter, deviceRun_live_marker_not_rerecorded _ _ _
    (.single (.create deviceSucceeds 0 _)) (.single (.queue _ (.operate _ _ _ _ ran)))
    liveBefore liveAfter⟩

end MusaBackend

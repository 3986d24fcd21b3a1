import MusaBackend.MarkerOrder

/-!
Dependencies between queues through `submit_queue_wait_for`.

Queues of one device are ordered against each other only where one of them waits on a
marker of another. `submit_queue_wait_for` issues `musaStreamWaitEvent` on the waiting
queue's own stream for the marker's event handle; MUSA then holds back every later
command of that stream until the latest record of the handle issued before the wait is
done. Along every run of the backend on a device, a live marker's handle was last
recorded by a record of its own and is not recorded again while the marker lives. So
once a queue has waited on a live marker, every command it issues afterwards completes
only once the marker is complete, for as long as the marker lives.
-/

namespace MusaBackend

/-- Modelled from MUSA's semantics of `musaStreamWaitEvent`: the wait at `position`
completes only once the latest record, issued before it, of the event it waits on is
done. -/
def StreamCompletion.HonoursWait {calls : List MusaCall} (completion : StreamCompletion calls)
    (position : Nat) : Prop :=
  ∀ stream handle recordAt, calls[position]? = some (.streamWaitEvent stream handle) →
    lastRecord (calls.take position) handle = some recordAt →
    completion.done position → completion.done recordAt

section Runs

variable {Id : Type} [DecidableEq Id] (hash : ConfigurationHash Id) (env : LaunchEnvironment)
  (engine : AdaptivityEngine)

theorem QueueOperation.run_submitQueueWaitFor (queue : MusaQueue) {device : Device}
    {win32 : Bool} {now : Nat} {handle : EventHandle} {world next : QueueWorld Id}
    (ran : (QueueOperation.submitQueueWaitFor (some handle)).run hash env engine queue device
      win32 now world = .ok next) :
    next.events.pool = world.events.pool ∧
      next.events.trace.calls =
        world.events.trace.calls ++ [.streamWaitEvent queue.stream handle] := by
  have submittedRan : (queue.submitQueueWaitFor device (some handle) world).map (·.2) =
      .ok next := ran
  obtain ⟨_, submitted, rfl⟩ := exists_of_map_eq_ok submittedRan
  cases submitted
  exact ⟨rfl, rfl⟩

/-- Along every run of the backend on a device, once a queue has waited on a marker live
at that point, every command it issues from the wait on completes only once the marker
is complete, as long as the marker lives: for every completion of the trace that keeps
MUSA's in-order stream semantics and honours the wait. -/
theorem deviceRun_wait_orders_queues {dev : Nat} {world afterWait final : QueueWorld Id}
    (reached : Relation.ReflTransGen (DeviceStep hash env engine) (QueueWorld.initial dev) world)
    {marker : MusaNodeEvent} (live : marker ∈ world.events.pool.markers) (queue : MusaQueue)
    {device : Device} {win32 : Bool} {now : Nat}
    (waited : (QueueOperation.submitQueueWaitFor (some marker.event)).run hash env engine queue
      device win32 now world = .ok afterWait)
    (run : Relation.ReflTransGen (DeviceStep hash env engine) afterWait final)
    (liveAfter : marker ∈ final.events.pool.markers)
    (completion : StreamCompletion final.events.trace.calls)
    (honoured : completion.HonoursWait world.events.trace.calls.length)
    {later : Nat} (fromWait : world.events.trace.calls.length ≤ later)
    (onQueue : (final.events.trace.calls[later]?).bind MusaCall.target = some queue.stream)
    (laterDone : completion.done later) : completion.Complete marker.event := by
  have initial : (QueueWorld.initial dev : QueueWorld Id).Accounted :=
    ⟨eventRun_accounted .refl, callbackRun_accounted .refl⟩
  have initialFresh : (QueueWorld.initial dev : QueueWorld Id).events.pool.MarkersFresh :=
    fun _ member => nomatch member
  have reachedWait := reached.tail (.queue queue (.operate device win32 now _ waited))
  obtain ⟨samePool, waitCalls⟩ :=
    QueueOperation.run_submitQueueWaitFor hash env engine queue waited
  obtain ⟨added, finalCalls, unrecorded⟩ := deviceRun_live_marker_unrecorded hash env engine run
    (deviceRun_keeps_accounted hash env engine reachedWait initial)
    (deviceRun_markersFresh hash env engine reachedWait initial initialFresh).1
    (samePool ▸ live) liveAfter
  obtain ⟨recordAt, _, last, -⟩ := (deviceRun_recordOrder hash env engine reached initial
    initialFresh ⟨fun _ member => (nomatch member), fun _ member => (nomatch member)⟩).recorded
    marker live
  have waitUnrecorded : ∀ stream, MusaCall.eventRecord marker.event stream ∉
      [MusaCall.streamWaitEvent queue.stream marker.event] := by
    simp
  have finalLast : lastRecord final.events.trace.calls marker.event = some recordAt := by
    rw [finalCalls, waitCalls, lastRecord_append_of_unrecorded unrecorded,
      lastRecord_append_of_unrecorded waitUnrecorded, last]
  have waitAt : final.events.trace.calls[world.events.trace.calls.length]? =
      some (.streamWaitEvent queue.stream marker.event) := by
    rw [finalCalls, waitCalls, List.append_assoc, List.getElem?_append_right (le_refl _),
      Nat.sub_self]
    simp
  have beforeWait : final.events.trace.calls.take world.events.trace.calls.length =
      world.events.trace.calls := by
    rw [finalCalls, waitCalls, List.append_assoc, List.take_left]
  have waitDone : completion.done world.events.trace.calls.length := by
    rcases fromWait.lt_or_eq with afterIt | rfl
    · exact completion.inOrder afterIt (by rw [waitAt]; rfl) onQueue laterDone
    · exact laterDone
  exact ⟨recordAt, finalLast,
    honoured _ _ _ waitAt (by rw [beforeWait]; exact last) waitDone⟩

end Runs

def twoQueues : MusaQueue × QueueWorld Nat :=
  MusaQueue.create deviceSucceeds 0 0
    (MusaQueue.create deviceSucceeds 0 0 (QueueWorld.initial 0 : QueueWorld Nat)).2

/-- Two queues constructed on a fresh device; the second waits on the first one's
reference marker, handle `0`, and issues a memset, and then the first issues one. Once
the device is done with the calls up to the second queue's memset, but not with the
first queue's, the marker is complete. -/
theorem deviceRun_wait_orders_queues_twoQueues :
    ∃ afterWait final, (QueueOperation.submitQueueWaitFor (some 0)).run
        (⟨fun _ => 0, fun _ _ _ => 0⟩ : ConfigurationHash Nat) (singleTargetEnvironment [])
        uniformEngine twoQueues.1 deviceSucceeds false 0 twoQueues.2 = .ok afterWait ∧
      Relation.ReflTransGen (DeviceStep (⟨fun _ => 0, fun _ _ _ => 0⟩ : ConfigurationHash Nat)
        (singleTargetEnvironment []) uniformEngine) afterWait final ∧
      final.events.trace.calls = afterWait.events.trace.calls ++
        [.memsetAsync 4096 0 16 (some 3), .memsetAsync 4096 0 16 (some 0)] ∧
      (⟨0, 0, 0⟩ : MusaNodeEvent) ∈ final.events.pool.markers ∧
      (⟨fun position => position < 8, fun less _ _ done => less.trans done⟩ :
        StreamCompletion final.events.trace.calls).Complete 0 := by
  let afterWait := twoQueues.2.withTrace
    (twoQueues.2.events.trace.issue deviceSucceeds (.streamWaitEvent (some 3) 0)).2
  let secondMemset := afterWait.withTrace
    (afterWait.events.trace.issue deviceSucceeds (.memsetAsync 4096 0 16 (some 3))).2
  let final := secondMemset.withTrace
    (secondMemset.events.trace.issue deviceSucceeds (.memsetAsync 4096 0 16 (some 0))).2
  have waited : (QueueOperation.submitQueueWaitFor (some 0)).run
      (⟨fun _ => 0, fun _ _ _ => 0⟩ : ConfigurationHash Nat) (singleTargetEnvironment [])
      uniformEngine twoQueues.1 deviceSucceeds false 0 twoQueues.2 = .ok afterWait := rfl
  have firstStep : Relation.ReflTransGen (DeviceStep (⟨fun _ => 0, fun _ _ _ => 0⟩ :
      ConfigurationHash Nat) (singleTargetEnvironment []) uniformEngine) afterWait secondMemset :=
    .single (.queue twoQueues.1 (.operate deviceSucceeds false 0
      (.submitMemset ⟨4096, 0, 16⟩ none) rfl))
  have run : Relation.ReflTransGen (DeviceStep (⟨fun _ => 0, fun _ _ _ => 0⟩ :
      ConfigurationHash Nat) (singleTargetEnvironment []) uniformEngine) afterWait final :=
    firstStep.tail (.queue (MusaQueue.create deviceSucceeds 0 0
      (QueueWorld.initial 0 : QueueWorld Nat)).1
      (.operate deviceSucceeds false 0 (.submitMemset ⟨4096, 0, 16⟩ none) rfl))
  have live : (⟨0, 0, 0⟩ : MusaNodeEvent) ∈ twoQueues.2.events.pool.markers :=
    List.mem_cons_self _ _
  have liveAfter : (⟨0, 0, 0⟩ : MusaNodeEvent) ∈ final.events.pool.markers :=
    List.mem_cons_self _ _
  exact ⟨afterWait, final, waited, run, rfl, liveAfter, deviceRun_wait_orders_queues _ _ _
    ((Relation.ReflTransGen.single (.create deviceSucceeds 0 _)).tail (.create deviceSucceeds 0 _))
    live _ waited run liveAfter _ (fun _ _ _ waitAt last _ => by cases waitAt; cases last; decide)
    (show twoQueues.2.events.trace.calls.length ≤ 7 by decide)
    (rfl : (final.events.trace.calls[7]?).bind MusaCall.target = some (some 3))
    (show 7 < 8 by decide)⟩

end MusaBackend

import MusaBackend.Runtime
import Mathlib.Logic.Relation

/-!
The per-device event pool and the completion markers that borrow its handles.

`musa_event_factory::create` and `musa_queue::insert_event` are translated from the
sources. The generic `event_pool` template and the `musa_node_event` destructor are not
among them; they follow the spec's contract: a free handle is reused before a new one
is made, and a marker gives its handle back to its pool when it is destroyed.

The field `lost` is bookkeeping of the model only. It lists the handles that
`insert_event` took from the pool and then dropped, so that every handle the factory
made has a place and the accounting can be stated as a permutation.
-/

namespace MusaBackend

/-- A live `musa_node_event`: the marker's identity, its pool's device, its handle. -/
structure MusaNodeEvent where
  id : Nat
  device : Nat
  event : EventHandle
deriving DecidableEq, Repr

/-- `musa_event_pool` of one device together with the markers holding its handles.
Handle `n` is the `n`-th one that `musa_event_factory::create` made. -/
structure DeviceEvents where
  device : Nat
  availableEvents : List EventHandle := []
  created : Nat := 0
  markers : List MusaNodeEvent := []
  nextMarker : Nat := 0
  lost : List EventHandle := []
deriving Repr

/-- What `insert_event` reads and changes: the device's pool and the trace. -/
structure BackendState where
  pool : DeviceEvents
  trace : Trace := {}

/-- A freshly constructed `musa_event_pool(device_id)` and an empty trace. -/
def BackendState.initial (device : Nat) : BackendState := { pool := { device } }

/-- `musa_event_factory::create`. -/
def musaEventFactoryCreate (device : Device) (state : BackendState) :
    Except ErrorInfo EventHandle × BackendState :=
  let issued := state.trace.issue device .eventCreate
  if issued.1 ≠ musaSuccess then
    (.error { message := "musa_event_factory: Couldn't create event"
              code := some { component := "MUSA", code := issued.1 } },
      { state with trace := issued.2 })
  else
    (.ok state.pool.created,
      { pool := { state.pool with created := state.pool.created + 1 }, trace := issued.2 })

/-- Modelled from the spec: `event_pool::obtain_event`. A free handle is reused; only an
empty pool asks the factory for a new one. -/
def BackendState.obtainEvent (device : Device) (state : BackendState) :
    Except ErrorInfo EventHandle × BackendState :=
  match state.pool.availableEvents with
  | handle :: rest =>
      (.ok handle, { state with pool := { state.pool with availableEvents := rest } })
  | [] => musaEventFactoryCreate device state

/-- Modelled from the spec: `event_pool::release_event`. -/
def DeviceEvents.releaseEvent (pool : DeviceEvents) (handle : EventHandle) :
    DeviceEvents :=
  { pool with availableEvents := handle :: pool.availableEvents }

/-- Modelled from the spec: destroying a `musa_node_event` releases its handle to the
pool it was made with. -/
def DeviceEvents.destroyMarker (pool : DeviceEvents) (marker : MusaNodeEvent) :
    DeviceEvents :=
  { pool.releaseEvent marker.event with markers := pool.markers.erase marker }

/-- `musa_queue::insert_event`: obtain a handle and record it on the queue's stream.
A failed record returns `nullptr` and does not give the handle back. -/
def insertEvent (device : Device) (stream : Stream) (state : BackendState) :
    Option MusaNodeEvent × BackendState :=
  match state.obtainEvent device with
  | (.error info, state) => (none, { state with trace := state.trace.registerError info })
  | (.ok handle, state) =>
      let issued := state.trace.issue device (.eventRecord handle stream)
      if issued.1 ≠ musaSuccess then
        (none,
          { pool := { state.pool with lost := state.pool.lost ++ [handle] }
            trace := issued.2.registerError
              { message := "musa_queue: Couldn't record event"
                code := some { component := "MUSA", code := issued.1 } } })
      else
        let marker : MusaNodeEvent := ⟨state.pool.nextMarker, state.pool.device, handle⟩
        (some marker,
          { pool := { state.pool with
                        markers := state.pool.markers ++ [marker]
                        nextMarker := state.pool.nextMarker + 1 }
            trace := issued.2 })

theorem obtainEvent_cases (device : Device) (state : BackendState) :
    (∃ handle rest, state.pool.availableEvents = handle :: rest ∧
        state.obtainEvent device =
          (.ok handle, { state with pool := { state.pool with availableEvents := rest } })) ∨
      (state.pool.availableEvents = [] ∧
        device state.trace.calls.length .eventCreate = musaSuccess ∧
        state.obtainEvent device =
          (.ok state.pool.created,
            { pool := { state.pool with created := state.pool.created + 1 }
              trace := (state.trace.issue device .eventCreate).2 })) ∨
      (∃ info, state.pool.availableEvents = [] ∧
        device state.trace.calls.length .eventCreate ≠ musaSuccess ∧ state.obtainEvent device =
        (.error info, { state with trace := (state.trace.issue device .eventCreate).2 })) := by
  unfold BackendState.obtainEvent
  cases available : state.pool.availableEvents with
  | cons handle rest => exact .inl ⟨handle, rest, rfl, rfl⟩
  | nil =>
      unfold musaEventFactoryCreate
      by_cases failed : (state.trace.issue device .eventCreate).1 ≠ musaSuccess
      · exact .inr (.inr ⟨_, rfl, failed, if_pos failed⟩)
      · exact .inr (.inl ⟨rfl, not_not.mp failed, if_neg failed⟩)

theorem insertEvent_of_obtained {device : Device} (stream : Stream)
    {state next : BackendState} {handle : EventHandle}
    (obtained : state.obtainEvent device = (.ok handle, next)) :
    (device next.trace.calls.length (.eventRecord handle stream) ≠ musaSuccess ∧
      ∃ err, insertEvent device stream state =
        (none, { pool := { next.pool with lost := next.pool.lost ++ [handle] },
                 trace := (next.trace.issue device (.eventRecord handle stream)).2.registerError
                   { message := "musa_queue: Couldn't record event"
                     code := some { component := "MUSA", code := err } } })) ∨
      device next.trace.calls.length (.eventRecord handle stream) = musaSuccess ∧
      insertEvent device stream state =
        (some ⟨next.pool.nextMarker, next.pool.device, handle⟩,
          { pool := { next.pool with
                        markers := next.pool.markers ++ [⟨next.pool.nextMarker,
                          next.pool.device, handle⟩]
                        nextMarker := next.pool.nextMarker + 1 }
            trace := (next.trace.issue device (.eventRecord handle stream)).2 }) := by
  by_cases failed : (next.trace.issue device (.eventRecord handle stream)).1 ≠ musaSuccess
  · exact .inl ⟨failed, _, by simp only [insertEvent, obtained, if_pos failed]; rfl⟩
  · exact .inr ⟨not_not.mp failed, by simp only [insertEvent, obtained, if_neg failed]⟩

theorem insertEvent_of_failed {device : Device} {stream : Stream}
    {state next : BackendState} {info : ErrorInfo}
    (failed : state.obtainEvent device = (.error info, next)) :
    insertEvent device stream state =
      (none, { next with trace := next.trace.registerError info }) := by
  simp only [insertEvent, failed]

theorem obtainEvent_error_pool {device : Device} {state next : BackendState}
    {info : ErrorInfo} (failed : state.obtainEvent device = (.error info, next)) :
    next.pool = state.pool := by
  rcases obtainEvent_cases device state with ⟨_, _, _, reused⟩ | ⟨_, _, made⟩ | ⟨_, _, _, same⟩
  · simp [reused] at failed
  · simp [made] at failed
  · rw [same, Prod.mk.injEq] at failed
    rw [← failed.2]

/-- Every handle the pool knows of, wherever it is: free, held by a live marker, lost. -/
def DeviceEvents.held (pool : DeviceEvents) : List EventHandle :=
  pool.availableEvents ++ pool.markers.map MusaNodeEvent.event ++ pool.lost

/-- The model's accounting: each handle the factory made is in exactly one place, and
every live marker gives its handle back to this pool. -/
structure DeviceEvents.Accounted (pool : DeviceEvents) : Prop where
  placed : pool.held.Perm (List.range pool.created)
  sameDevice : ∀ marker ∈ pool.markers, marker.device = pool.device

/-- The spec's ownership invariant: each handle the factory made is free in the pool or
held by exactly one live marker. -/
def DeviceEvents.Owned (pool : DeviceEvents) : Prop :=
  (pool.availableEvents ++ pool.markers.map MusaNodeEvent.event).Perm
    (List.range pool.created)

theorem obtainEvent_ok_placed {device : Device} {state next : BackendState}
    {handle : EventHandle} (accounted : state.pool.Accounted)
    (obtained : state.obtainEvent device = (.ok handle, next)) :
    (handle :: next.pool.held).Perm (List.range next.pool.created) ∧
      next.pool.device = state.pool.device ∧ next.pool.markers = state.pool.markers := by
  rcases obtainEvent_cases device state with
    ⟨reused, rest, available, reuse⟩ | ⟨empty, -, made⟩ | ⟨_, _, _, failed⟩
  · rw [reuse, Prod.mk.injEq, Except.ok.injEq] at obtained
    obtain ⟨rfl, rfl⟩ := obtained
    refine ⟨?_, rfl, rfl⟩
    simpa [DeviceEvents.held, available] using accounted.placed
  · rw [made, Prod.mk.injEq, Except.ok.injEq] at obtained
    obtain ⟨rfl, rfl⟩ := obtained
    refine ⟨?_, rfl, rfl⟩
    rw [List.range_succ]
    exact (List.perm_append_singleton _ _).symm.trans (accounted.placed.append_right _)
  · simp [failed] at obtained

@[simp] theorem DeviceEvents.held_lost_append (pool : DeviceEvents) (handle : EventHandle) :
    { pool with lost := pool.lost ++ [handle] }.held = pool.held ++ [handle] := by
  simp [DeviceEvents.held]

theorem DeviceEvents.held_markers_append (pool : DeviceEvents) (marker : MusaNodeEvent)
    (nextMarker : Nat) :
    ({ pool with markers := pool.markers ++ [marker], nextMarker }).held.Perm
      (marker.event :: pool.held) := by
  simp only [DeviceEvents.held, List.map_append, List.map_cons, List.map_nil,
    List.append_assoc, List.singleton_append]
  exact (List.perm_middle.append_left _).trans List.perm_middle

theorem insertEvent_accounted (device : Device) (stream : Stream) {state : BackendState}
    (accounted : state.pool.Accounted) :
    (insertEvent device stream state).2.pool.Accounted := by
  rcases obtained : state.obtainEvent device with ⟨_ | handle, next⟩
  · rw [insertEvent_of_failed obtained]
    simpa [obtainEvent_error_pool obtained] using accounted
  · obtain ⟨placed, sameDevice, sameMarkers⟩ := obtainEvent_ok_placed accounted obtained
    have oldDevice : ∀ marker ∈ next.pool.markers, marker.device = next.pool.device := by
      simpa [sameMarkers, sameDevice] using accounted.sameDevice
    obtain ⟨-, _, recordFailed⟩ | ⟨-, recorded⟩ := insertEvent_of_obtained stream obtained
    · rw [recordFailed]
      refine ⟨?_, oldDevice⟩
      rw [DeviceEvents.held_lost_append]
      exact (List.perm_append_singleton _ _).trans placed
    · rw [recorded]
      refine ⟨(DeviceEvents.held_markers_append _ _ _).trans placed, ?_⟩
      intro marker member
      rcases List.mem_append.mp member with old | new
      · exact oldDevice marker old
      · rw [List.mem_singleton.mp new]

theorem destroyMarker_accounted {pool : DeviceEvents} {marker : MusaNodeEvent}
    (accounted : pool.Accounted) (live : marker ∈ pool.markers) :
    (pool.destroyMarker marker).Accounted := by
  refine ⟨?_, fun other member =>
    accounted.sameDevice other (List.mem_of_mem_erase member)⟩
  have split := (List.perm_cons_erase live).map MusaNodeEvent.event
  refine List.Perm.trans ?_ accounted.placed
  simp only [DeviceEvents.held, DeviceEvents.destroyMarker, DeviceEvents.releaseEvent,
    List.cons_append, List.append_assoc]
  exact List.perm_middle.symm.trans ((split.symm.append_right _).append_left _)

/-- One step of a run on the device: a queue bound to it calls `insert_event` on its
own stream, whatever the device answers, or a live marker is destroyed. -/
inductive EventStep : BackendState → BackendState → Prop
  | insert (device : Device) (stream : Stream) (state : BackendState) :
      EventStep state (insertEvent device stream state).2
  | destroy (state : BackendState) (marker : MusaNodeEvent)
      (live : marker ∈ state.pool.markers) :
      EventStep state { state with pool := state.pool.destroyMarker marker }

theorem EventStep.accounted {state next : BackendState} (step : EventStep state next)
    (accounted : state.pool.Accounted) : next.pool.Accounted := by
  cases step with
  | insert device stream => exact insertEvent_accounted device stream accounted
  | destroy _ marker live => exact destroyMarker_accounted accounted live

theorem eventRun_accounted {device : Nat} {state : BackendState}
    (run : Relation.ReflTransGen EventStep (BackendState.initial device) state) :
    state.pool.Accounted := by
  induction run with
  | refl => exact ⟨by simp [BackendState.initial, DeviceEvents.held], by simp [BackendState.initial]⟩
  | tail _ step accounted => exact step.accounted accounted

/-- In every reachable state no handle is held by two live markers, and no handle is
both free and held. -/
theorem eventRun_handles_nodup {device : Nat} {state : BackendState}
    (run : Relation.ReflTransGen EventStep (BackendState.initial device) state) :
    (state.pool.availableEvents ++ state.pool.markers.map MusaNodeEvent.event).Nodup :=
  ((eventRun_accounted run).placed.nodup_iff.mpr (List.nodup_range _)).sublist
    (List.sublist_append_left _ _)

theorem eventRun_handles_nodup_insert :
    ((insertEvent deviceSucceeds none (BackendState.initial 0)).2.pool.availableEvents ++
      (insertEvent deviceSucceeds none (BackendState.initial 0)).2.pool.markers.map
        MusaNodeEvent.event).Nodup :=
  eventRun_handles_nodup (.single (.insert deviceSucceeds none _))

/-- Under the accounting, the spec's invariant holds exactly when no handle was lost. -/
theorem owned_iff_lost_nil {pool : DeviceEvents} (accounted : pool.Accounted) :
    pool.Owned ↔ pool.lost = [] := by
  constructor
  · intro owned
    have lengths := owned.length_eq.trans accounted.placed.length_eq.symm
    simpa [DeviceEvents.held] using lengths
  · intro nothingLost
    simpa [DeviceEvents.Owned, DeviceEvents.held, nothingLost] using accounted.placed

def recordFails : Device := fun _ call =>
  match call with
  | .eventRecord _ _ => 1
  | _ => musaSuccess

/-- One `insert_event` on a fresh pool whose record fails is a reachable state in which
handle `0` was created but is neither free nor held by a marker. -/
theorem insertEvent_record_failure_loses_handle :
    Relation.ReflTransGen EventStep (BackendState.initial 0)
        (insertEvent recordFails none (BackendState.initial 0)).2 ∧
      (insertEvent recordFails none (BackendState.initial 0)).2.pool.created = 1 ∧
      ¬ (insertEvent recordFails none (BackendState.initial 0)).2.pool.Owned :=
  ⟨.single (.insert _ _ _), rfl, by
    rw [owned_iff_lost_nil (insertEvent_accounted _ _ (eventRun_accounted .refl))]
    decide⟩

end MusaBackend

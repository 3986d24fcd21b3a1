import MusaBackend.EventPool
import MusaBackend.Memcpy
import MusaBackend.HostCallback
import MusaBackend.CodeObjectLaunch

/-!
`musa_queue`: its construction and destruction, `musa_instrumentation_guard`, and the
operations a user of a constructed queue calls.

All of them act on a `QueueWorld`: the device's event pool and the trace, the kernel
cache, the thread-local SSCP configuration and the host-callback copies. A submission's
body is handed to `guarded` as a function, so the guard is constructed before the body's
calls and destroyed after them, as the source's scopes do.

The kernel launcher that `submit_kernel` hands the queue to lies outside the sources. It
is modelled from the spec as the requests its `invoke` makes: native launches on the
queue's stream, or submissions through the two invokers. `activate_device()` and the
timing reference the instrumentations carry are not modelled: the former issues no
command on a stream, the latter is passed through unchanged.
-/

namespace MusaBackend

/-- Everything a queue's operations read and change. -/
structure QueueWorld (Id : Type) where
  events : BackendState
  cache : KernelCache Id CodeObject CompiledImage := {}
  threadConfig : KernelConfiguration := {}
  callbacks : HostCallbacks := {}

/-- The world before any queue of device `dev` exists. -/
def QueueWorld.initial {Id : Type} (dev : Nat) : QueueWorld Id := { events := .initial dev }

def QueueWorld.withTrace {Id : Type} (world : QueueWorld Id) (trace : Trace) :
    QueueWorld Id :=
  { world with events := { world.events with trace } }

@[simp] theorem QueueWorld.withTrace_trace {Id : Type} (world : QueueWorld Id)
    (trace : Trace) : (world.withTrace trace).events.trace = trace := rfl

@[simp] theorem QueueWorld.withTrace_pool {Id : Type} (world : QueueWorld Id)
    (trace : Trace) : (world.withTrace trace).events.pool = world.events.pool := rfl

/-- An instrumentation the guard adds to an operation. A marker is `none` where
`insert_event` returned `nullptr`; a finish record whose start is `none` is the one
built without a start event. -/
inductive Instrumentation where
  | submissionTimestamp (time : Nat)
  | executionStart (start : Option MusaNodeEvent)
  | executionFinish (start finish : Option MusaNodeEvent)
deriving DecidableEq, Repr

/-- A constructed `musa_instrumentation_guard`: its `_node` and `_task_start`. -/
structure MusaInstrumentationGuard where
  node : Option DagNode
  taskStart : Option MusaNodeEvent

section Guard

variable (device : Device) (queue : MusaQueue)

/-- The constructor of `musa_instrumentation_guard`: the guard, the instrumentations it
adds and the state after its `insert_event`. `now` is what `profiler_clock::now()`
reads. -/
def MusaInstrumentationGuard.create (node : Option DagNode) (now : Nat)
    (state : BackendState) : MusaInstrumentationGuard × List Instrumentation × BackendState :=
  match node with
  | none => (⟨none, none⟩, [], state)
  | some n =>
      let submission :=
        if n.hints.requestSubmissionTimestamp then [Instrumentation.submissionTimestamp now]
        else []
      if n.hints.requestStartTimestamp then
        let taskStart := insertEvent device queue.stream state
        (⟨some n, taskStart.1⟩, submission ++ [.executionStart taskStart.1], taskStart.2)
      else (⟨some n, none⟩, submission, state)

/-- The destructor of `musa_instrumentation_guard`. -/
def MusaInstrumentationGuard.destroy (guard : MusaInstrumentationGuard)
    (state : BackendState) : List Instrumentation × BackendState :=
  match guard.node with
  | none => ([], state)
  | some n =>
      if n.hints.requestFinishTimestamp then
        let taskFinish := insertEvent device queue.stream state
        ([.executionFinish guard.taskStart taskFinish.1], taskFinish.2)
      else ([], state)

theorem MusaInstrumentationGuard.create_events {node : Option DagNode} {now : Nat}
    {state next : BackendState} {guard : MusaInstrumentationGuard}
    {records : List Instrumentation}
    (created : MusaInstrumentationGuard.create device queue node now state =
      (guard, records, next)) :
    next = state ∨ next = (insertEvent device queue.stream state).2 := by
  unfold MusaInstrumentationGuard.create at created
  split at created
  · cases created
    exact .inl rfl
  · dsimp only at created
    split at created <;> cases created
    · exact .inr rfl
    · exact .inl rfl

theorem MusaInstrumentationGuard.destroy_events {guard : MusaInstrumentationGuard}
    {state next : BackendState} {records : List Instrumentation}
    (destroyed : guard.destroy device queue state = (records, next)) :
    next = state ∨ next = (insertEvent device queue.stream state).2 := by
  unfold MusaInstrumentationGuard.destroy at destroyed
  split at destroyed
  · cases destroyed
    exact .inl rfl
  · split at destroyed <;> cases destroyed
    · exact .inr rfl
    · exact .inl rfl

variable {Id : Type}

/-- A submission's body run in the guard's scope: the guard is constructed before it and
destroyed after it. A body that stops at an assertion stops the submission. -/
def guarded (node : Option DagNode) (now : Nat)
    (body : QueueWorld Id → Except Assertion (Result × QueueWorld Id)) (world : QueueWorld Id) :
    Except Assertion (Result × List Instrumentation × QueueWorld Id) :=
  let created := MusaInstrumentationGuard.create device queue node now world.events
  (body { world with events := created.2.2 }).map fun (result, inner) =>
    let finished := created.1.destroy device queue inner.events
    (result, created.2.1 ++ finished.1, { inner with events := finished.2 })

/-- Issue `call` and turn a failure into an error result carrying `message`. -/
def QueueWorld.issueChecked (world : QueueWorld Id) (call : MusaCall) (message : String) :
    Result × QueueWorld Id :=
  let issued := world.events.trace.issue device call
  (if issued.1 ≠ musaSuccess then musaErrorResult message issued.1 else .success,
    world.withTrace issued.2)

@[simp] theorem QueueWorld.issueChecked_calls (world : QueueWorld Id) (call : MusaCall)
    (message : String) :
    (world.issueChecked device call message).2.events.trace.calls =
      world.events.trace.calls ++ [call] := rfl

end Guard

/-- `prefetch_operation`: the fields `submit_prefetch` reads. -/
structure PrefetchOperation where
  pointer : Nat
  numBytes : Nat
  targetIsHost : Bool
deriving DecidableEq, Repr

/-- `memset_operation`: the fields `submit_memset` reads. -/
structure MemsetOperation where
  pointer : Nat
  pattern : Int
  numBytes : Nat
deriving DecidableEq, Repr

/-- Modelled from the spec: one request the kernel launcher makes in `invoke`, with the
queue it was given by `set_params` and the invokers it was given as capabilities. -/
inductive LaunchRequest where
  | native (kernelName : String) (gridSize blockSize : Range3) (sharedMemory : Nat)
  | multipass (hcfObject : Nat) (numGroups groupSize : Range3) (localMemSize : Nat)
      (kernelNameTag kernelBodyName : String)
  | sscp (launch : SscpLaunch)
deriving DecidableEq, Repr

/-- The `musaMemPrefetchAsync` call of `submit_prefetch`. -/
def MusaQueue.prefetchCall (queue : MusaQueue) (op : PrefetchOperation) : MusaCall :=
  .memPrefetchAsync op.pointer op.numBytes
    (if op.targetIsHost then musaCpuDeviceId else queue.dev) queue.stream

/-- The `musaMemsetAsync` call of `submit_memset`. -/
def MusaQueue.memsetCall (queue : MusaQueue) (op : MemsetOperation) : MusaCall :=
  .memsetAsync op.pointer op.pattern op.numBytes queue.stream

section Submissions

variable {Id : Type} [DecidableEq Id] (hash : ConfigurationHash Id) (env : LaunchEnvironment)
  (engine : AdaptivityEngine) (device : Device) (queue : MusaQueue)

/-- `musa_queue::submit_memcpy`: the result, the instrumentations and the world, or the
assertion it stops at. -/
def MusaQueue.submitMemcpy (op : MemcpyOperation) (node : Option DagNode) (now : Nat)
    (world : QueueWorld Id) : Except Assertion (Result × List Instrumentation × QueueWorld Id) :=
  if op.source.getAccessPtr = 0 then .error "op.source().get_access_ptr()"
  else if op.dest.getAccessPtr = 0 then .error "op.dest().get_access_ptr()"
  else
    match submitMemcpyKind op.source.device op.dest.device with
    | .error assertion => .error assertion
    | .ok copyKind =>
        guarded device queue node now (fun world => .ok (world.issueChecked device
          (submitMemcpyCall op copyKind queue.stream) "musa_queue: Couldn't submit memcpy"))
          world

/-- One launcher request carried out through the queue. What the invokers return is the
launcher's; the queue does not read it. -/
def runLaunchRequest (world : QueueWorld Id) : LaunchRequest → Except Assertion (QueueWorld Id)
  | .native kernelName gridSize blockSize sharedMemory =>
      .ok (world.withTrace (world.events.trace.issue device
        (.launchNative kernelName gridSize blockSize sharedMemory queue.stream)).2)
  | .multipass hcfObject numGroups groupSize localMemSize kernelNameTag kernelBodyName =>
      (musaMultipassCodeObjectInvokerSubmitKernel hash env device queue world.cache
          world.events.trace hcfObject numGroups groupSize localMemSize kernelNameTag
          kernelBodyName).map fun (_, cache, trace) => { world.withTrace trace with cache }
  | .sscp launch =>
      let submitted := musaSscpCodeObjectInvokerSubmitKernel hash env device engine queue
        world.cache world.events.trace world.threadConfig launch
      submitted.1.map fun (_, cache, trace) =>
        { world.withTrace trace with cache, threadConfig := submitted.2 }

/-- Modelled from the spec: `l->invoke(...)` makes its requests in order. -/
def runLauncher (requests : List LaunchRequest) (world : QueueWorld Id) :
    Except Assertion (QueueWorld Id) :=
  requests.foldlM (runLaunchRequest hash env engine device queue) world

theorem runLauncher_keeps {requests : List LaunchRequest} {world next : QueueWorld Id}
    (ran : runLauncher hash env engine device queue requests world = .ok next) :
    next.events.pool = world.events.pool ∧ next.callbacks = world.callbacks := by
  induction requests generalizing world with
  | nil =>
      cases ran
      exact ⟨rfl, rfl⟩
  | cons request rest more =>
      simp only [runLauncher, List.foldlM_cons] at ran
      cases stepped : runLaunchRequest hash env engine device queue world request with
      | error => rw [stepped] at ran; cases ran
      | ok middle =>
          rw [stepped] at ran
          have kept : middle.events.pool = world.events.pool ∧
              middle.callbacks = world.callbacks := by
            cases request <;> simp only [runLaunchRequest] at stepped
            · cases stepped
              exact ⟨rfl, rfl⟩
            all_goals
              obtain ⟨_, -, rfl⟩ := exists_of_map_eq_ok stepped
              exact ⟨rfl, rfl⟩
          obtain ⟨restPool, restCallbacks⟩ := more ran
          exact ⟨restPool.trans kept.1, restCallbacks.trans kept.2⟩

/-- `musa_queue::submit_kernel`. `launcher` is what `find_launcher(backend_id::musa)`
finds, given by the requests its `invoke` makes. -/
def MusaQueue.submitKernel (launcher : Option (List LaunchRequest)) (node : Option DagNode)
    (now : Nat) (world : QueueWorld Id) :
    Except Assertion (Result × List Instrumentation × QueueWorld Id) :=
  match launcher with
  | none => .ok (.error { message := "Could not obtain backend kernel launcher" }, [], world)
  | some requests =>
      guarded device queue node now
        (fun world => (runLauncher hash env engine device queue requests world).map
          (.success, ·)) world

/-- `musa_queue::submit_prefetch`; a build for Windows (`win32`) only logs a warning. -/
def MusaQueue.submitPrefetch (win32 : Bool) (op : PrefetchOperation) (node : Option DagNode)
    (now : Nat) (world : QueueWorld Id) :
    Except Assertion (Result × List Instrumentation × QueueWorld Id) :=
  if win32 then .ok (.success, [], world)
  else
    guarded device queue node now (fun world => .ok (world.issueChecked device
      (queue.prefetchCall op) "musa_queue: musaMemPrefetchAsync() failed")) world

/-- `musa_queue::submit_memset`. -/
def MusaQueue.submitMemset (op : MemsetOperation) (node : Option DagNode) (now : Nat)
    (world : QueueWorld Id) : Except Assertion (Result × List Instrumentation × QueueWorld Id) :=
  guarded device queue node now (fun world => .ok (world.issueChecked device
    (queue.memsetCall op) "musa_queue: musaMemsetAsync() failed")) world

/-- `musa_queue::submit_queue_wait_for`. `event` is the backend event of the node's event
when that is an `inorder_queue_event<musaEvent_t>`, and `none` otherwise. -/
def MusaQueue.submitQueueWaitFor (event : Option EventHandle) (world : QueueWorld Id) :
    Except Assertion (Result × QueueWorld Id) :=
  match event with
  | none => .error "dynamic_is<inorder_queue_event<musaEvent_t>>(evt.get())"
  | some handle => .ok (world.issueChecked device (.streamWaitEvent queue.stream handle)
      "musa_queue: musaStreamWaitEvent() failed")

/-- `musa_queue::wait`. -/
def MusaQueue.wait (world : QueueWorld Id) : Result × QueueWorld Id :=
  world.issueChecked device (.streamSynchronize queue.stream)
    "musa_queue: Couldn't synchronize with stream"

/-- `musa_queue::query_status`: the result and, when the stream answered, whether its
work is complete. -/
def MusaQueue.queryStatus (world : QueueWorld Id) : (Result × Option Bool) × QueueWorld Id :=
  let issued := world.events.trace.issue device (.streamQuery queue.stream)
  (if issued.1 = musaSuccess then (.success, some true)
    else if issued.1 = musaErrorNotReady then (.success, some false)
    else (.error { message := "musa_queue: Could not query stream status"
                   code := some { component := "MU", code := issued.1 } }, none),
    world.withTrace issued.2)

end Submissions

theorem MusaQueue.submitMemcpy_guarded {Id : Type} (device : Device) (queue : MusaQueue)
    {op : MemcpyOperation} {node : Option DagNode} {now : Nat} {world next : QueueWorld Id}
    {result : Result} {records : List Instrumentation}
    (submitted : queue.submitMemcpy device op node now world = .ok (result, records, next)) :
    op.source.getAccessPtr ≠ 0 ∧ op.dest.getAccessPtr ≠ 0 ∧
      ∃ copyKind, submitMemcpyKind op.source.device op.dest.device = .ok copyKind ∧
        guarded device queue node now (fun world => .ok (world.issueChecked device
          (submitMemcpyCall op copyKind queue.stream) "musa_queue: Couldn't submit memcpy"))
          world = .ok (result, records, next) := by
  unfold MusaQueue.submitMemcpy at submitted
  split at submitted
  · cases submitted
  split at submitted
  · cases submitted
  split at submitted
  · cases submitted
  · exact ⟨‹_›, ‹_›, _, ‹_›, submitted⟩

/-- The stream-creation call of the constructor. -/
def streamCreateCall (priority : Int) : MusaCall :=
  if priority = 0 then .streamCreateWithFlags else .streamCreateWithPriority priority

/-- `musa_queue::musa_queue(be, dev, priority)`. A created stream is named by the position
of its creation call; on a failure the error is registered and `_stream` stays null.
`_reference_event`, modelled from the spec, is a marker inserted on the new stream. -/
def MusaQueue.create {Id : Type} (device : Device) (dev : Nat) (priority : Int)
    (world : QueueWorld Id) : MusaQueue × QueueWorld Id :=
  let created := world.events.trace.issue device (streamCreateCall priority)
  if created.1 ≠ musaSuccess then
    (⟨dev, none⟩, world.withTrace (created.2.registerError
      (musaErrorInfo "musa_queue: Couldn't construct backend stream" created.1)))
  else
    let queue : MusaQueue := ⟨dev, some world.events.trace.calls.length⟩
    (queue, { world with
      events := (insertEvent device queue.stream { world.events with trace := created.2 }).2 })

theorem MusaQueue.create_world {Id : Type} (device : Device) (dev : Nat) (priority : Int)
    (world : QueueWorld Id) :
    (∃ trace, trace.calls = world.events.trace.calls ++ [streamCreateCall priority] ∧
        (MusaQueue.create device dev priority world).2 = world.withTrace trace) ∨
      ∃ stream trace, trace.calls = world.events.trace.calls ++ [streamCreateCall priority] ∧
        (MusaQueue.create device dev priority world).2 =
          { world with events := (insertEvent device stream { world.events with trace }).2 } := by
  unfold MusaQueue.create
  dsimp only
  split
  · exact .inl ⟨_, rfl, rfl⟩
  · exact .inr ⟨_, _, rfl, rfl⟩

/-- `musa_queue::~musa_queue`. -/
def MusaQueue.destroy {Id : Type} (device : Device) (queue : MusaQueue)
    (world : QueueWorld Id) : QueueWorld Id :=
  let destroyed := world.events.trace.issue device (.streamDestroy queue.stream)
  world.withTrace (if destroyed.1 ≠ musaSuccess then
      destroyed.2.registerError (musaErrorInfo "musa_queue: Couldn't destroy stream" destroyed.1)
    else destroyed.2)

/-- An operation a user calls on a constructed queue, with what it passes. -/
inductive QueueOperation where
  | insertEvent
  | submitMemcpy (op : MemcpyOperation) (node : Option DagNode)
  | submitKernel (launcher : Option (List LaunchRequest)) (node : Option DagNode)
  | submitPrefetch (op : PrefetchOperation) (node : Option DagNode)
  | submitMemset (op : MemsetOperation) (node : Option DagNode)
  | submitQueueWaitFor (event : Option EventHandle)
  | submitExternalWaitFor (node : DagNode)
  | wait
  | queryStatus

section Runs

variable {Id : Type} [DecidableEq Id] (hash : ConfigurationHash Id) (env : LaunchEnvironment)
  (engine : AdaptivityEngine) (queue : MusaQueue)

/-- The world after an operation, or the assertion it stops at. `win32` is the build's
platform and `now` the clock's reading. -/
def QueueOperation.run (device : Device) (win32 : Bool) (now : Nat) (world : QueueWorld Id) :
    QueueOperation → Except Assertion (QueueWorld Id)
  | .insertEvent =>
      .ok { world with events := (MusaBackend.insertEvent device queue.stream world.events).2 }
  | .submitMemcpy op node => (queue.submitMemcpy device op node now world).map (·.2.2)
  | .submitKernel launcher node =>
      (queue.submitKernel hash env engine device launcher node now world).map (·.2.2)
  | .submitPrefetch op node => (queue.submitPrefetch device win32 op node now world).map (·.2.2)
  | .submitMemset op node => (queue.submitMemset device op node now world).map (·.2.2)
  | .submitQueueWaitFor event => (queue.submitQueueWaitFor device event world).map (·.2)
  | .submitExternalWaitFor node =>
      let submitted := MusaBackend.submitExternalWaitFor device queue node world.callbacks
        world.events.trace
      .ok { world.withTrace submitted.2.2 with callbacks := submitted.2.1 }
  | .wait => .ok (queue.wait device world).2
  | .queryStatus => .ok (queue.queryStatus device world).2

theorem QueueOperation.run_cases {device : Device} {win32 : Bool} {now : Nat}
    {world next : QueueWorld Id} {operation : QueueOperation}
    (ran : operation.run hash env engine queue device win32 now world = .ok next) :
    next = { world with events := (MusaBackend.insertEvent device queue.stream world.events).2 } ∨
      (∃ node call message result records, call.target = some queue.stream ∧
        call.recordedEvent = none ∧ guarded device queue node now (fun world => .ok (world.issueChecked device call message))
          world = .ok (result, records, next)) ∨
      (∃ node requests result records,
        guarded device queue node now (fun world =>
          (runLauncher hash env engine device queue requests world).map (.success, ·)) world =
            .ok (result, records, next)) ∨
      next = world ∨
      (∃ call, call.target = some queue.stream ∧ call.recordedEvent = none ∧
        next = world.withTrace (world.events.trace.issue device call).2) ∨
      ∃ node, next =
        { world.withTrace (MusaBackend.submitExternalWaitFor device queue node world.callbacks
            world.events.trace).2.2 with
          callbacks := (MusaBackend.submitExternalWaitFor device queue node world.callbacks
            world.events.trace).2.1 } := by
  cases operation <;> dsimp only [QueueOperation.run] at ran
  case insertEvent =>
      cases ran
      exact .inl rfl
  case submitMemcpy op node =>
      obtain ⟨⟨_, _, _⟩, submitted, rfl⟩ := exists_of_map_eq_ok ran
      obtain ⟨-, -, copyKind, -, guardedRan⟩ := MusaQueue.submitMemcpy_guarded device queue submitted
      exact .inr (.inl ⟨node, _, _, _, _, submitMemcpyCall_target op copyKind queue.stream,
        submitMemcpyCall_recordedEvent op copyKind queue.stream, guardedRan⟩)
  case submitKernel launcher node =>
      obtain ⟨⟨_, _, _⟩, submitted, rfl⟩ := exists_of_map_eq_ok ran
      cases launcher with
      | none =>
          cases submitted
          exact .inr (.inr (.inr (.inl rfl)))
      | some requests => exact .inr (.inr (.inl ⟨node, requests, _, _, submitted⟩))
  case submitPrefetch op node =>
      obtain ⟨⟨_, _, _⟩, submitted, rfl⟩ := exists_of_map_eq_ok ran
      unfold MusaQueue.submitPrefetch at submitted
      split at submitted
      · cases submitted
        exact .inr (.inr (.inr (.inl rfl)))
      · exact .inr (.inl ⟨node, queue.prefetchCall op, _, _, _, rfl, rfl, submitted⟩)
  case submitMemset op node =>
      obtain ⟨⟨_, _, _⟩, submitted, rfl⟩ := exists_of_map_eq_ok ran
      exact .inr (.inl ⟨node, queue.memsetCall op, _, _, _, rfl, rfl, submitted⟩)
  case submitQueueWaitFor event =>
      obtain ⟨_, submitted, rfl⟩ := exists_of_map_eq_ok ran
      cases event with
      | none => cases submitted
      | some handle =>
          cases submitted
          exact .inr (.inr (.inr (.inr (.inl
            ⟨.streamWaitEvent queue.stream handle, rfl, rfl, rfl⟩))))
  case submitExternalWaitFor node =>
      cases ran
      exact .inr (.inr (.inr (.inr (.inr ⟨node, rfl⟩))))
  case wait =>
      cases ran
      exact .inr (.inr (.inr (.inr (.inl ⟨.streamSynchronize queue.stream, rfl, rfl, rfl⟩))))
  case queryStatus =>
      cases ran
      exact .inr (.inr (.inr (.inr (.inl ⟨.streamQuery queue.stream, rfl, rfl, rfl⟩))))

/-- One step of a run on a constructed queue: an operation, whatever the device answers,
the destruction of a live marker, or the runtime invoking a registered callback. -/
inductive QueueStep : QueueWorld Id → QueueWorld Id → Prop
  | operate (device : Device) (win32 : Bool) (now : Nat) (operation : QueueOperation)
      {world next : QueueWorld Id}
      (ran : operation.run hash env engine queue device win32 now world = .ok next) :
      QueueStep world next
  | release (world : QueueWorld Id) (marker : MusaNodeEvent)
      (live : marker ∈ world.events.pool.markers) :
      QueueStep world
        { world with events := { world.events with pool := world.events.pool.destroyMarker marker } }
  | callback (world : QueueWorld Id) (status : MusaError) (userData : Nat)
      (registered : userData ∈ world.callbacks.pending) :
      QueueStep world
        { world.withTrace (world.callbacks.invoke status userData world.events.trace).2 with
          callbacks := (world.callbacks.invoke status userData world.events.trace).1 }

/-- Modelled from the spec: one step of the backend on a device, in any interleaving of
its queues. A queue of this device is constructed, one queue takes a step, or a queue is
destroyed. -/
inductive DeviceStep : QueueWorld Id → QueueWorld Id → Prop
  | create (device : Device) (priority : Int) (world : QueueWorld Id) :
      DeviceStep world (MusaQueue.create device world.events.pool.device priority world).2
  | queue (queue : MusaQueue) {world next : QueueWorld Id}
      (step : QueueStep hash env engine queue world next) : DeviceStep world next
  | destroy (device : Device) (queue : MusaQueue) (world : QueueWorld Id) :
      DeviceStep world (queue.destroy device world)

end Runs

end MusaBackend

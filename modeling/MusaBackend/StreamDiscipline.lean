import MusaBackend.Queue

/-!
Which stream each call of a queue goes to, over whole runs.

Every call a queue's operations issue is a command on the queue's `_stream` or a call on
no stream, and the destructor issues exactly `musaStreamDestroy(_stream)`. After a failed
construction `_stream` is the null stream, MUSA's default stream: the operations issue
their commands there, and the destructor destroys it. Nothing waits for the stream's work
before the destructor's call.

The lemmas first say once what `insert_event`, the guard and the launch paths issue;
the operations, the steps and the runs are assembled from them.
-/

namespace MusaBackend

/-- `after` is `before` followed by calls that each satisfy `allowed`. -/
def Appends (allowed : MusaCall → Prop) (before after : List MusaCall) : Prop :=
  ∃ added, after = before ++ added ∧ ∀ call ∈ added, allowed call

namespace Appends

variable {allowed : MusaCall → Prop} {first second third : List MusaCall}

theorem refl (calls : List MusaCall) : Appends allowed calls calls := ⟨[], by simp, by simp⟩

theorem of_eq (same : second = first) : Appends allowed first second := same ▸ refl _

theorem trans (head : Appends allowed first second) (tail : Appends allowed second third) :
    Appends allowed first third := by
  obtain ⟨added, rfl, allowedAdded⟩ := head
  obtain ⟨more, rfl, allowedMore⟩ := tail
  exact ⟨added ++ more, by simp, fun call member =>
    (List.mem_append.mp member).elim (allowedAdded call) (allowedMore call)⟩

theorem mono {weaker : MusaCall → Prop} (appends : Appends allowed first second)
    (implies : ∀ call, allowed call → weaker call) : Appends weaker first second :=
  let ⟨added, calls, allowedAdded⟩ := appends
  ⟨added, calls, fun call member => implies call (allowedAdded call member)⟩

theorem single (call : MusaCall) (allowedCall : allowed call) :
    Appends allowed first (first ++ [call]) :=
  ⟨[call], rfl, by simpa using allowedCall⟩

end Appends

/-- A call on `stream` or on no stream. -/
def MusaCall.OnStream (stream : Stream) (call : MusaCall) : Prop :=
  call.target = none ∨ call.target = some stream

/-- The calls a kernel launch for a queue on `stream` issues: kernel lookups in modules
and launches on `stream`. -/
def MusaCall.LaunchesOn (stream : Stream) : MusaCall → Prop
  | .moduleGetFunction _ _ => True
  | .launchKernel _ _ _ _ _ target | .launchNative _ _ _ _ target => target = stream
  | _ => False

theorem MusaCall.LaunchesOn.onStream {stream : Stream} {call : MusaCall}
    (launches : call.LaunchesOn stream) : call.OnStream stream := by
  cases call
  case moduleGetFunction => exact .inl rfl
  case launchKernel | launchNative => exact .inr (congrArg some launches)
  all_goals exact (launches : False).elim

theorem MusaCall.LaunchesOn.recordedEvent {stream : Stream} {call : MusaCall}
    (launches : call.LaunchesOn stream) : call.recordedEvent = none := by
  cases call
  case eventRecord => exact (launches : False).elim
  all_goals rfl

/-- How `obtain_event` came by `handle` when the trace held `position` calls: the pool's
first free handle with no call, or a new one from `musa_event_factory::create`, whose
`musaEventCreate` the device accepted. -/
def ObtainedHandle (device : Device) (pool : DeviceEvents) (position : Nat)
    (made : List MusaCall) (handle : EventHandle) : Prop :=
  (made = [] ∧ pool.availableEvents.head? = some handle) ∨
    (made = [.eventCreate] ∧ pool.availableEvents = [] ∧
      device position .eventCreate = musaSuccess ∧ handle = pool.created)

/-- The calls one `insert_event` on `stream` issues from `pool` when the trace holds
`position` calls, and the marker it returns: `nullptr` when the factory's
`musaEventCreate` or the record fails, and otherwise the pool's next marker, holding the
handle the device recorded on `stream`. -/
inductive InsertEventCalls (device : Device) (stream : Stream) (pool : DeviceEvents)
    (position : Nat) : Option MusaNodeEvent → List MusaCall → Prop
  | createFailed (empty : pool.availableEvents = [])
      (failed : device position .eventCreate ≠ musaSuccess) :
      InsertEventCalls device stream pool position none [.eventCreate]
  | recordFailed (made : List MusaCall) (handle : EventHandle)
      (obtained : ObtainedHandle device pool position made handle)
      (failed : device (position + made.length) (.eventRecord handle stream) ≠ musaSuccess) :
      InsertEventCalls device stream pool position none (made ++ [.eventRecord handle stream])
  | recorded (made : List MusaCall) (handle : EventHandle)
      (obtained : ObtainedHandle device pool position made handle)
      (succeeded : device (position + made.length) (.eventRecord handle stream) = musaSuccess) :
      InsertEventCalls device stream pool position (some ⟨pool.nextMarker, pool.device, handle⟩)
        (made ++ [.eventRecord handle stream])

theorem ObtainedHandle.made {device : Device} {pool : DeviceEvents} {position : Nat}
    {made : List MusaCall} {handle : EventHandle}
    (obtained : ObtainedHandle device pool position made handle) :
    made = [] ∨ made = [.eventCreate] :=
  obtained.imp And.left And.left

theorem InsertEventCalls.onStream {device : Device} {stream : Stream} {pool : DeviceEvents}
    {position : Nat} {marker : Option MusaNodeEvent} {calls : List MusaCall}
    (shape : InsertEventCalls device stream pool position marker calls) :
    ∀ call ∈ calls, call.OnStream stream := by
  cases shape with
  | createFailed => exact List.forall_mem_singleton.mpr (.inl rfl)
  | recordFailed _ _ obtained | recorded _ _ obtained =>
      rcases obtained.made with rfl | rfl
      · exact List.forall_mem_singleton.mpr (.inr rfl)
      · exact List.forall_mem_cons.mpr ⟨.inl rfl, List.forall_mem_singleton.mpr (.inr rfl)⟩

theorem insertEvent_calls (device : Device) (stream : Stream) (state : BackendState) :
    ∃ added, (insertEvent device stream state).2.trace.calls = state.trace.calls ++ added ∧
      InsertEventCalls device stream state.pool state.trace.calls.length
        (insertEvent device stream state).1 added := by
  have recording : ∀ {next : BackendState} {handle : EventHandle} (made : List MusaCall),
      state.obtainEvent device = (.ok handle, next) →
      ObtainedHandle device state.pool state.trace.calls.length made handle →
      next.trace.calls = state.trace.calls ++ made →
      next.pool.nextMarker = state.pool.nextMarker → next.pool.device = state.pool.device →
      ∃ added, (insertEvent device stream state).2.trace.calls = state.trace.calls ++ added ∧
        InsertEventCalls device stream state.pool state.trace.calls.length
          (insertEvent device stream state).1 added := by
    intro next handle made obtained pooled madeCalls nextMarker sameDevice
    have position : next.trace.calls.length = state.trace.calls.length + made.length := by
      rw [madeCalls, List.length_append]
    rcases insertEvent_of_obtained stream obtained with ⟨failed, _, recordFailed⟩ |
      ⟨succeeded, recorded⟩
    · rw [recordFailed]
      exact ⟨_, by simp [madeCalls], .recordFailed made handle pooled (position ▸ failed)⟩
    · rw [recorded, nextMarker, sameDevice]
      exact ⟨_, by simp [madeCalls], .recorded made handle pooled (position ▸ succeeded)⟩
  rcases obtainEvent_cases device state with ⟨handle, _, available, reused⟩ |
    ⟨empty, created, made⟩ | ⟨_, empty, failed, failedCreate⟩
  · exact recording [] reused (.inl ⟨rfl, by rw [available]; rfl⟩) (by simp) rfl rfl
  · exact recording [.eventCreate] made (.inr ⟨rfl, empty, created, rfl⟩) rfl rfl rfl
  · rw [insertEvent_of_failed failedCreate]
    exact ⟨_, rfl, .createFailed empty failed⟩

theorem insertEvent_appendsOn (device : Device) (stream : Stream) (state : BackendState) :
    Appends (MusaCall.OnStream stream) state.trace.calls
      (insertEvent device stream state).2.trace.calls :=
  let ⟨added, calls, shape⟩ := insertEvent_calls device stream state
  ⟨added, calls, shape.onStream⟩

/-- The calls the guard issues for one marker: those of one `insert_event` from `pool`
when the marker was requested, none otherwise. -/
def MarkerCalls (device : Device) (requested : Bool) (stream : Stream) (pool : DeviceEvents)
    (position : Nat) (marker : Option MusaNodeEvent) (calls : List MusaCall) : Prop :=
  if requested then InsertEventCalls device stream pool position marker calls
  else marker = none ∧ calls = []

theorem MarkerCalls.onStream {device : Device} {requested : Bool} {stream : Stream}
    {pool : DeviceEvents} {position : Nat} {marker : Option MusaNodeEvent}
    {calls : List MusaCall} (shape : MarkerCalls device requested stream pool position marker calls) :
    ∀ call ∈ calls, call.OnStream stream := by
  unfold MarkerCalls at shape
  split at shape
  · exact shape.onStream
  · simp [shape.2]

section Guard

variable (device : Device) (queue : MusaQueue)

theorem MusaInstrumentationGuard.create_spec {node : Option DagNode} {now : Nat}
    {state next : BackendState} {guard : MusaInstrumentationGuard}
    {records : List Instrumentation}
    (created : MusaInstrumentationGuard.create device queue node now state =
      (guard, records, next)) :
    guard.node = node ∧
      records = (if node.any (·.hints.requestSubmissionTimestamp) then
          [.submissionTimestamp now] else []) ++
        (if node.any (·.hints.requestStartTimestamp) then
          [.executionStart guard.taskStart] else []) ∧
      ∃ startCalls, next.trace.calls = state.trace.calls ++ startCalls ∧
        MarkerCalls device (node.any (·.hints.requestStartTimestamp)) queue.stream state.pool
          state.trace.calls.length guard.taskStart startCalls := by
  cases node with
  | none =>
      cases created
      exact ⟨rfl, rfl, [], by simp, by simp [MarkerCalls]⟩
  | some n =>
      by_cases start : n.hints.requestStartTimestamp
      · obtain ⟨added, calls, shape⟩ := insertEvent_calls device queue.stream state
        simp only [MusaInstrumentationGuard.create, start, if_true, Prod.mk.injEq] at created
        obtain ⟨rfl, rfl, rfl⟩ := created
        exact ⟨rfl, by simp [start], added, calls, by simpa [MarkerCalls, start] using shape⟩
      · simp only [MusaInstrumentationGuard.create, start, Bool.false_eq_true, if_false,
          Prod.mk.injEq] at created
        obtain ⟨rfl, rfl, rfl⟩ := created
        exact ⟨rfl, by simp [start], [], by simp, by simp [MarkerCalls, start]⟩

theorem MusaInstrumentationGuard.destroy_spec {guard : MusaInstrumentationGuard}
    {state next : BackendState} {records : List Instrumentation}
    (destroyed : guard.destroy device queue state = (records, next)) :
    ∃ finish finishCalls,
      records = (if guard.node.any (·.hints.requestFinishTimestamp) then
          [.executionFinish guard.taskStart finish] else []) ∧
        next.trace.calls = state.trace.calls ++ finishCalls ∧
        MarkerCalls device (guard.node.any (·.hints.requestFinishTimestamp)) queue.stream
          state.pool state.trace.calls.length finish finishCalls := by
  unfold MusaInstrumentationGuard.destroy at destroyed
  split at destroyed
  · rename_i noNode
    cases destroyed
    exact ⟨none, [], by simp [noNode], by simp, by simp [MarkerCalls, noNode]⟩
  · rename_i n someNode
    by_cases finish : n.hints.requestFinishTimestamp
    · obtain ⟨added, calls, shape⟩ := insertEvent_calls device queue.stream state
      simp only [finish, if_true, Prod.mk.injEq] at destroyed
      obtain ⟨rfl, rfl⟩ := destroyed
      exact ⟨(insertEvent device queue.stream state).1, added, by simp [someNode, finish], calls,
        by simpa [MarkerCalls, someNode, finish] using shape⟩
    · simp only [finish, Bool.false_eq_true, if_false, Prod.mk.injEq] at destroyed
      obtain ⟨rfl, rfl⟩ := destroyed
      exact ⟨none, [], by simp [someNode, finish], by simp,
        by simp [MarkerCalls, someNode, finish]⟩

variable {Id : Type}

theorem guarded_spec {node : Option DagNode} {now : Nat}
    {body : QueueWorld Id → Except Assertion (Result × QueueWorld Id)} {world next : QueueWorld Id}
    {result : Result} {records : List Instrumentation}
    (ran : guarded device queue node now body world = .ok (result, records, next)) :
    ∃ guard startRecords started inner finishRecords,
      MusaInstrumentationGuard.create device queue node now world.events =
          (guard, startRecords, started) ∧
        body { world with events := started } = .ok (result, inner) ∧
        guard.destroy device queue inner.events = (finishRecords, next.events) ∧
        records = startRecords ++ finishRecords ∧ next = { inner with events := next.events } := by
  simp only [guarded] at ran
  obtain ⟨⟨_, inner⟩, bodyRan, finished⟩ := exists_of_map_eq_ok ran
  simp only [Prod.mk.injEq] at finished
  obtain ⟨rfl, rfl, rfl⟩ := finished
  exact ⟨_, _, _, inner, _, rfl, bodyRan, rfl, rfl, rfl⟩

theorem guarded_induction (P : QueueWorld Id → Prop) {node : Option DagNode} {now : Nat}
    {body : QueueWorld Id → Except Assertion (Result × QueueWorld Id)} {world next : QueueWorld Id}
    {result : Result} {records : List Instrumentation}
    (insert : ∀ before, P before →
      P { before with events := (insertEvent device queue.stream before.events).2 })
    (bodyKeeps : ∀ before bodyResult after, body before = .ok (bodyResult, after) →
      P before → P after)
    (ran : guarded device queue node now body world = .ok (result, records, next))
    (holds : P world) : P next := by
  obtain ⟨_, _, started, inner, _, created, bodyRan, destroyed, -, shape⟩ :=
    guarded_spec device queue ran
  have startHolds : P { world with events := started } := by
    rcases MusaInstrumentationGuard.create_events device queue created with rfl | rfl
    · exact holds
    · exact insert world holds
  have innerHolds := bodyKeeps _ _ _ bodyRan startHolds
  rw [shape]
  rcases MusaInstrumentationGuard.destroy_events device queue destroyed with same | inserted
  · rw [same]
    exact innerHolds
  · rw [inserted]
    exact insert inner innerHolds

end Guard

theorem launchKernelFromModule_appends (device : Device) (module : ModuleHandle)
    (kernelName : String) (gridSize blockSize : Range3) (sharedMemory : Nat) (stream : Stream)
    (trace : Trace) :
    Appends (MusaCall.LaunchesOn stream) trace.calls
      (launchKernelFromModule device module kernelName gridSize blockSize sharedMemory stream
        trace).2.calls := by
  rcases launchKernelFromModule_calls device module kernelName gridSize blockSize sharedMemory
      stream trace with looked | launched
  · exact ⟨_, looked, List.forall_mem_singleton.mpr trivial⟩
  · exact ⟨_, launched, List.forall_mem_cons.mpr ⟨trivial, List.forall_mem_singleton.mpr rfl⟩⟩

theorem launchMultipassCodeObject_appends {device : Device} {queue : MusaQueue}
    {obj : CodeObject} {fragment : String} {gridSize blockSize : Range3}
    {dynamicSharedMem : Nat} {trace next : Trace} {result : Result}
    (launched : launchMultipassCodeObject device queue obj fragment gridSize blockSize
      dynamicSharedMem trace = .ok (result, next)) :
    Appends (MusaCall.LaunchesOn queue.stream) trace.calls next.calls := by
  rcases launchMultipassCodeObject_cases launched with ⟨-, -, rfl⟩ | ⟨-, launchedFrom⟩
  · exact .refl _
  · rw [show next = _ from congrArg Prod.snd launchedFrom.symm]
    exact launchKernelFromModule_appends ..

theorem launchSscpCodeObject_appends {env : LaunchEnvironment} {device : Device}
    {queue : MusaQueue} {obj : CodeObject} {input : AdaptivityInput} {trace next : Trace}
    {result : Result}
    (launched : launchSscpCodeObject env device queue obj input trace = .ok (result, next)) :
    Appends (MusaCall.LaunchesOn queue.stream) trace.calls next.calls := by
  unfold launchSscpCodeObject at launched
  split at launched
  · cases launched
  · split at launched
    · cases launched
      exact .refl _
    · have finished := congrArg Prod.snd (Except.ok.inj launched)
      subst finished
      exact launchKernelFromModule_appends ..

theorem multipassCodeObjectConstructor_calls (env : LaunchEnvironment)
    (root : List HcfTargetNode) (hcfObject : Nat) (selectedTarget : String) (device : Nat)
    (trace : Trace) :
    (multipassCodeObjectConstructor env root hcfObject selectedTarget device trace).2.calls =
      trace.calls := by
  unfold multipassCodeObjectConstructor
  dsimp only
  split
  · rfl
  · split
    · rfl
    · split
      · rfl
      · split <;> rfl

theorem sscpJitCompiler_calls (env : LaunchEnvironment) (engine : AdaptivityEngine)
    (input : AdaptivityInput) (config : KernelConfiguration) (trace : Trace) :
    (sscpJitCompiler env engine input config trace).2.calls = trace.calls := by
  unfold sscpJitCompiler
  dsimp only
  split <;> rfl

theorem sscpCodeObjectConstructor_calls (env : LaunchEnvironment) (engine : AdaptivityEngine)
    (input : AdaptivityInput) (targetArchName : String) (dev : Nat)
    (config : KernelConfiguration) (image : CompiledImage) (trace : Trace) :
    (sscpCodeObjectConstructor env engine input targetArchName dev config image trace).2.calls =
      trace.calls := by
  unfold sscpCodeObjectConstructor
  dsimp only
  split <;> rfl

section Launch

variable {Id : Type} [DecidableEq Id] (hash : ConfigurationHash Id) (env : LaunchEnvironment)
  (engine : AdaptivityEngine) (device : Device) (queue : MusaQueue)

theorem submitMultipassKernelFromCodeObject_appends
    {cache nextCache : KernelCache Id CodeObject CompiledImage} {trace next : Trace}
    {launch : MultipassLaunch} {result : Result}
    (submitted : submitMultipassKernelFromCodeObject hash env device queue cache trace launch =
      .ok (result, nextCache, next)) :
    Appends (MusaCall.LaunchesOn queue.stream) trace.calls next.calls := by
  rcases submitMultipassKernelFromCodeObject_cases hash env device submitted with
    ⟨-, -, rfl⟩ | ⟨root, selectedTarget, _, _, -, obtained, outcome⟩
  · exact .refl _
  have preserved := getOrConstructCodeObject_calls cache
    (multipassCodeObjectConfigurationId hash launch.hcfObject selectedTarget queue.dev)
    (multipassCodeObjectConstructor_calls env root launch.hcfObject selectedTarget queue.dev)
    trace
  rw [obtained] at preserved
  rcases outcome with ⟨-, -, rfl⟩ | ⟨_, -, launched⟩
  · exact .of_eq preserved
  · exact (Appends.of_eq preserved).trans (launchMultipassCodeObject_appends launched)

theorem submitSscpKernelFromCodeObject_appends
    {cache nextCache : KernelCache Id CodeObject CompiledImage} {trace next : Trace}
    {threadConfig : KernelConfiguration} {launch : SscpLaunch} {result : Result}
    (submitted : (submitSscpKernelFromCodeObject hash env device engine queue cache trace
      threadConfig launch).1 = .ok (result, nextCache, next)) :
    Appends (MusaCall.LaunchesOn queue.stream) trace.calls next.calls := by
  rcases submitSscpKernelFromCodeObject_cases hash env device submitted with
    ⟨-, -, rfl⟩ | ⟨request, _, _, -, -, obtained, outcome⟩
  · exact .refl _
  have preserved := getOrConstructJitCodeObject_calls cache
    request.codeObjectConfigurationId request.binaryConfigurationId
    (sscpJitCompiler_calls env engine request.input request.config)
    (sscpCodeObjectConstructor_calls env engine request.input request.targetArchName
      queue.dev request.config) trace
  rw [obtained] at preserved
  rcases outcome with ⟨-, -, rfl⟩ | ⟨_, -, launched⟩
  · exact .of_eq preserved
  · exact (Appends.of_eq preserved).trans (launchSscpCodeObject_appends launched)

theorem runLaunchRequest_appends {world next : QueueWorld Id} {request : LaunchRequest}
    (ran : runLaunchRequest hash env engine device queue world request = .ok next) :
    Appends (MusaCall.LaunchesOn queue.stream) world.events.trace.calls
      next.events.trace.calls := by
  cases request with
  | native =>
      cases ran
      exact Appends.single _ rfl
  | multipass =>
      obtain ⟨_, submitted, rfl⟩ := exists_of_map_eq_ok ran
      exact submitMultipassKernelFromCodeObject_appends hash env device queue submitted
  | sscp =>
      obtain ⟨_, submitted, rfl⟩ := exists_of_map_eq_ok ran
      exact submitSscpKernelFromCodeObject_appends hash env engine device queue submitted

theorem runLauncher_appends {requests : List LaunchRequest} {world next : QueueWorld Id}
    (ran : runLauncher hash env engine device queue requests world = .ok next) :
    Appends (MusaCall.LaunchesOn queue.stream) world.events.trace.calls
      next.events.trace.calls := by
  induction requests generalizing world with
  | nil =>
      cases ran
      exact .refl _
  | cons request rest more =>
      simp only [runLauncher, List.foldlM_cons] at ran
      cases stepped : runLaunchRequest hash env engine device queue world request with
      | error => rw [stepped] at ran; cases ran
      | ok middle =>
          rw [stepped] at ran
          exact (runLaunchRequest_appends hash env engine device queue stepped).trans (more ran)

end Launch

theorem submitExternalWaitFor_calls (device : Device) (queue : MusaQueue) (node : DagNode)
    (callbacks : HostCallbacks) (trace : Trace) :
    (submitExternalWaitFor device queue node callbacks trace).2.2.calls =
      trace.calls ++ [.streamAddCallback queue.stream callbacks.nextAddress] := by
  unfold submitExternalWaitFor
  dsimp only
  split <;> rfl

theorem HostCallbacks.invoke_calls (callbacks : HostCallbacks) (status : MusaError)
    (userData : Nat) (trace : Trace) :
    (callbacks.invoke status userData trace).2.calls = trace.calls := by
  unfold HostCallbacks.invoke hostSynchronizationCallback
  dsimp only
  split <;> rfl

section Runs

variable {Id : Type} [DecidableEq Id] (hash : ConfigurationHash Id) (env : LaunchEnvironment)
  (engine : AdaptivityEngine) (queue : MusaQueue)

/-- Every operation is made of three kinds of effects: a marker inserted on the queue's
stream; calls on the queue's stream that record no event and leave the pool and the
host-callback copies alone; and one host callback registered on the queue's stream. A
property of worlds that each of them keeps holds after every operation. -/
theorem QueueOperation.run_induction (P : QueueWorld Id → Prop) {device : Device}
    {win32 : Bool} {now : Nat}
    (insert : ∀ before, P before →
      P { before with events := (MusaBackend.insertEvent device queue.stream before.events).2 })
    (effect : ∀ before after : QueueWorld Id, after.events.pool = before.events.pool →
      after.callbacks = before.callbacks →
      Appends (fun call => call.recordedEvent = none ∧ call.OnStream queue.stream)
        before.events.trace.calls after.events.trace.calls → P before → P after)
    (register : ∀ before node, P before →
      P { before.withTrace (MusaBackend.submitExternalWaitFor device queue node before.callbacks
            before.events.trace).2.2 with
          callbacks := (MusaBackend.submitExternalWaitFor device queue node before.callbacks
            before.events.trace).2.1 })
    {world next : QueueWorld Id} {operation : QueueOperation}
    (ran : operation.run hash env engine queue device win32 now world = .ok next)
    (holds : P world) : P next := by
  rcases QueueOperation.run_cases hash env engine queue ran with
    rfl | ⟨_, _, _, _, _, target, unrecorded, guardedRan⟩ | ⟨_, requests, _, _, guardedRan⟩ | rfl |
      ⟨call, target, unrecorded, rfl⟩ | ⟨node, rfl⟩
  · exact insert world holds
  · refine guarded_induction device queue P insert (fun before _ after issued => ?_) guardedRan
      holds
    cases issued
    exact effect before _ rfl rfl (.single _ ⟨unrecorded, .inr target⟩)
  · refine guarded_induction device queue P insert (fun before _ after launched => ?_) guardedRan
      holds
    obtain ⟨_, launcherRan, finished⟩ := exists_of_map_eq_ok launched
    cases finished
    obtain ⟨samePool, sameCallbacks⟩ := runLauncher_keeps hash env engine device queue launcherRan
    exact effect before _ samePool sameCallbacks
      ((runLauncher_appends hash env engine device queue launcherRan).mono
        fun _ launches => ⟨launches.recordedEvent, launches.onStream⟩)
  · exact holds
  · exact effect world (world.withTrace (world.events.trace.issue device call).2) rfl rfl
      (.single _ ⟨unrecorded, .inr target⟩) holds
  · exact register world node holds

theorem QueueOperation.run_appends {device : Device} {win32 : Bool} {now : Nat}
    {world next : QueueWorld Id} {operation : QueueOperation}
    (ran : operation.run hash env engine queue device win32 now world = .ok next) :
    Appends (MusaCall.OnStream queue.stream) world.events.trace.calls
      next.events.trace.calls :=
  QueueOperation.run_induction hash env engine queue
    (fun after => Appends (MusaCall.OnStream queue.stream) world.events.trace.calls
      after.events.trace.calls)
    (fun before appends => appends.trans (insertEvent_appendsOn device queue.stream before.events))
    (fun _ _ _ _ added appends => appends.trans (added.mono fun _ call => call.2))
    (fun before node appends => appends.trans (by
      rw [QueueWorld.withTrace_trace, submitExternalWaitFor_calls]
      exact .single _ (.inr rfl)))
    ran (.refl _)

theorem QueueStep.appends {world next : QueueWorld Id}
    (step : QueueStep hash env engine queue world next) :
    Appends (MusaCall.OnStream queue.stream) world.events.trace.calls
      next.events.trace.calls := by
  cases step with
  | operate _ _ _ _ ran => exact QueueOperation.run_appends hash env engine queue ran
  | release => exact .refl _
  | callback => exact .of_eq (HostCallbacks.invoke_calls ..)

theorem queueRun_appends {world next : QueueWorld Id}
    (run : Relation.ReflTransGen (QueueStep hash env engine queue) world next) :
    Appends (MusaCall.OnStream queue.stream) world.events.trace.calls
      next.events.trace.calls := by
  induction run with
  | refl => exact .refl _
  | tail _ step previous => exact previous.trans (step.appends hash env engine queue)

end Runs

theorem MusaQueue.create_spec {Id : Type} (device : Device) (dev : Nat) (priority : Int)
    (world : QueueWorld Id) :
    (MusaQueue.create device dev priority world).1 =
        ⟨dev, if device world.events.trace.calls.length (streamCreateCall priority) = musaSuccess
          then some world.events.trace.calls.length else none⟩ ∧
      Appends (MusaCall.OnStream (MusaQueue.create device dev priority world).1.stream)
        (world.events.trace.calls ++ [streamCreateCall priority])
        (MusaQueue.create device dev priority world).2.events.trace.calls := by
  unfold MusaQueue.create
  by_cases created : device world.events.trace.calls.length (streamCreateCall priority) =
    musaSuccess
  · simp only [Trace.issue, created, ne_eq, not_true_eq_false, if_false, if_true, true_and]
    exact insertEvent_appendsOn ..
  · simp only [Trace.issue, created, ne_eq, not_false_eq_true, if_true, if_false, true_and]
    exact .refl _

theorem MusaQueue.destroy_calls {Id : Type} (device : Device) (queue : MusaQueue)
    (world : QueueWorld Id) :
    (queue.destroy device world).events.trace.calls =
      world.events.trace.calls ++ [.streamDestroy queue.stream] := by
  unfold MusaQueue.destroy
  dsimp only
  split <;> rfl

/-- `result` reports the device's answer to `call`, which an operation issued once after
the calls `before` and which stands in `after`: success when the device accepted it, and
otherwise the operation's error, carrying `message` and the device's code. -/
def ReportsAnswer (device : Device) (before after : List MusaCall) (call : MusaCall)
    (message : String) (result : Result) : Prop :=
  ∃ position, before.length ≤ position ∧ after[position]? = some call ∧
    result = if device position call ≠ musaSuccess then
      musaErrorResult message (device position call) else .success

theorem issueChecked_reportsAnswer {Id : Type} (device : Device) (world : QueueWorld Id)
    (call : MusaCall) (message : String) :
    ReportsAnswer device world.events.trace.calls
      (world.issueChecked device call message).2.events.trace.calls call message
      (world.issueChecked device call message).1 :=
  ⟨_, le_refl _, by simp, rfl⟩

theorem guarded_issueChecked_reportsAnswer (device : Device) (queue : MusaQueue)
    {node : Option DagNode} {now : Nat} {call : MusaCall} {message : String}
    {Id : Type} {world next : QueueWorld Id} {result : Result} {records : List Instrumentation}
    (ran : guarded device queue node now (fun world => .ok (world.issueChecked device call
      message)) world = .ok (result, records, next)) :
    ReportsAnswer device world.events.trace.calls next.events.trace.calls call message result := by
  obtain ⟨_, _, started, inner, _, created, bodyRan, destroyed, -, -⟩ :=
    guarded_spec device queue ran
  obtain ⟨-, -, startCalls, startTrace, -⟩ :=
    MusaInstrumentationGuard.create_spec device queue created
  obtain ⟨-, finishCalls, -, finishTrace, -⟩ :=
    MusaInstrumentationGuard.destroy_spec device queue destroyed
  cases bodyRan
  refine ⟨started.trace.calls.length, by simp [startTrace], ?_, rfl⟩
  rw [finishTrace]
  simp only [QueueWorld.withTrace_trace, Trace.issue_calls]
  rw [List.append_assoc, List.getElem?_append_right (le_refl _), Nat.sub_self,
    List.singleton_append, List.getElem?_cons_zero]

section Lifecycle

variable {Id : Type} [DecidableEq Id] (hash : ConfigurationHash Id) (env : LaunchEnvironment)
  (engine : AdaptivityEngine)

/-- The queue's operations from `world` report their results from the device's answers to
their own commands, as the source checks them, whatever `_stream` holds: a copy, a
prefetch (on a build other than Windows), a memset, a wait on another queue's event and
`wait` report the answer to their one command, and a kernel submission that gets to its
launcher reports success. -/
def MusaQueue.ReportsDeviceAnswers (queue : MusaQueue) (world : QueueWorld Id) : Prop :=
  (∀ device op node now result records next,
    queue.submitMemcpy device op node now world = .ok (result, records, next) →
      ∃ copyKind, submitMemcpyKind op.source.device op.dest.device = .ok copyKind ∧
        ReportsAnswer device world.events.trace.calls next.events.trace.calls
          (submitMemcpyCall op copyKind queue.stream) "musa_queue: Couldn't submit memcpy"
          result) ∧
  (∀ device op node now result records next,
    queue.submitPrefetch device false op node now world = .ok (result, records, next) →
      ReportsAnswer device world.events.trace.calls next.events.trace.calls
        (queue.prefetchCall op) "musa_queue: musaMemPrefetchAsync() failed" result) ∧
  (∀ device op node now result records next,
    queue.submitMemset device op node now world = .ok (result, records, next) →
      ReportsAnswer device world.events.trace.calls next.events.trace.calls
        (queue.memsetCall op) "musa_queue: musaMemsetAsync() failed" result) ∧
  (∀ device handle result next,
    queue.submitQueueWaitFor device (some handle) world = .ok (result, next) →
      ReportsAnswer device world.events.trace.calls next.events.trace.calls
        (.streamWaitEvent queue.stream handle) "musa_queue: musaStreamWaitEvent() failed"
        result) ∧
  (∀ device, ReportsAnswer device world.events.trace.calls
    (queue.wait device world).2.events.trace.calls (.streamSynchronize queue.stream)
    "musa_queue: Couldn't synchronize with stream" (queue.wait device world).1) ∧
  (∀ device requests node now result records next,
    queue.submitKernel hash env engine device (some requests) node now world =
      .ok (result, records, next) → result = .success)

theorem MusaQueue.reportsDeviceAnswers (queue : MusaQueue) (world : QueueWorld Id) :
    queue.ReportsDeviceAnswers hash env engine world := by
  refine ⟨fun device op node now result records next submitted => ?_,
    fun device op node now result records next submitted =>
      guarded_issueChecked_reportsAnswer device queue submitted,
    fun device op node now result records next submitted =>
      guarded_issueChecked_reportsAnswer device queue submitted,
    fun device handle result next waited => ?_,
    fun device => issueChecked_reportsAnswer device world _ _,
    fun device requests node now result records next submitted => ?_⟩
  · obtain ⟨-, -, copyKind, chosen, guardedRan⟩ :=
      MusaQueue.submitMemcpy_guarded device queue submitted
    exact ⟨copyKind, chosen, guarded_issueChecked_reportsAnswer device queue guardedRan⟩
  · cases waited
    exact issueChecked_reportsAnswer device world _ _
  · unfold MusaQueue.submitKernel at submitted
    obtain ⟨_, _, _, _, _, -, launched, -⟩ := guarded_spec device queue submitted
    obtain ⟨_, -, finished⟩ := exists_of_map_eq_ok launched
    cases finished
    rfl

end Lifecycle

def streamCreateFails : Device := fun _ call =>
  match call with
  | .streamCreateWithFlags | .streamCreateWithPriority _ => 1
  | _ => musaSuccess

def failedQueue : MusaQueue × QueueWorld Nat :=
  MusaQueue.create streamCreateFails 0 0 (QueueWorld.initial 0)

end MusaBackend

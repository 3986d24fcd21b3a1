import MusaBackend.StreamDiscipline

/-!
What `musa_instrumentation_guard` attaches to a submission, and where its markers are
recorded.

The guard attaches the instrumentations the node's hints ask for, in the order
submission, start, finish. The start marker's `insert_event` comes before every call of
the submission's body, the finish marker's after all of them, both on the queue's
stream. A marker is `nullptr` when its `insert_event` failed, and the guard attaches the
record all the same: a start record with no marker, and a finish record built without
the start event although a start was requested. A Windows build of `submit_prefetch`
constructs no guard.
-/

namespace MusaBackend

/-- The instrumentations a node's hints ask for, given the start and finish markers. -/
def requestedInstrumentations (node : Option DagNode) (now : Nat)
    (start finish : Option MusaNodeEvent) : List Instrumentation :=
  (if node.any (·.hints.requestSubmissionTimestamp) then [.submissionTimestamp now] else []) ++
    (if node.any (·.hints.requestStartTimestamp) then [.executionStart start] else []) ++
    (if node.any (·.hints.requestFinishTimestamp) then [.executionFinish start finish] else [])

/-- The guard's part in a submission on `stream` that starts from `before` and whose own
calls are `body`: the calls end as `after`, with the start marker's `insert_event` from
`before` ahead of the body and the finish marker's, from `finishPool`, after it; the
records attached are `records`, carrying the markers those `insert_event`s returned. -/
def GuardContract (device : Device) (stream : Stream) (node : Option DagNode) (now : Nat)
    (before : BackendState) (finishPool : DeviceEvents) (body after : List MusaCall)
    (records : List Instrumentation) : Prop :=
  ∃ start finish startCalls finishCalls,
    after = before.trace.calls ++ startCalls ++ body ++ finishCalls ∧
      MarkerCalls device (node.any (·.hints.requestStartTimestamp)) stream before.pool
        before.trace.calls.length start startCalls ∧
      MarkerCalls device (node.any (·.hints.requestFinishTimestamp)) stream finishPool
        (before.trace.calls ++ startCalls ++ body).length finish finishCalls ∧
      records = requestedInstrumentations node now start finish

/-- The guard's part in a submission whose body leaves the pool alone, as every
submission's does: the finish marker's `insert_event` finds the pool the guard's
constructor left. -/
def SubmissionContract (device : Device) (queue : MusaQueue) (node : Option DagNode)
    (now : Nat) (before : BackendState) (body after : List MusaCall)
    (records : List Instrumentation) : Prop :=
  GuardContract device queue.stream node now before
    (MusaInstrumentationGuard.create device queue node now before).2.2.pool body after records

section Guard

variable (device : Device) (queue : MusaQueue) {Id : Type}

/-- Every guarded body that finishes is bracketed as the contract says, with the finish
marker inserted from the pool the body left. -/
theorem guarded_contract {node : Option DagNode} {now : Nat}
    {body : QueueWorld Id → Except Assertion (Result × QueueWorld Id)} {world next : QueueWorld Id}
    {result : Result} {records : List Instrumentation}
    (ran : guarded device queue node now body world = .ok (result, records, next)) :
    ∃ started inner,
      started.events = (MusaInstrumentationGuard.create device queue node now world.events).2.2 ∧
      body started = .ok (result, inner) ∧
      ∀ bodyCalls, inner.events.trace.calls = started.events.trace.calls ++ bodyCalls →
        GuardContract device queue.stream node now world.events inner.events.pool bodyCalls
          next.events.trace.calls records := by
  obtain ⟨guard, _, _, inner, _, created, bodyRan, destroyed, rfl, -⟩ :=
    guarded_spec device queue ran
  obtain ⟨guardNode, startRecords, startCalls, startTrace, startShape⟩ :=
    MusaInstrumentationGuard.create_spec device queue created
  obtain ⟨finish, finishCalls, finishRecords, finishTrace, finishShape⟩ :=
    MusaInstrumentationGuard.destroy_spec device queue destroyed
  refine ⟨_, inner, by rw [created], bodyRan, fun bodyCalls innerCalls =>
    ⟨guard.taskStart, finish, startCalls, finishCalls, ?_, startShape, ?_, ?_⟩⟩
  · rw [finishTrace, innerCalls, startTrace]
  · rw [innerCalls, startTrace, guardNode] at finishShape
    exact finishShape
  · rw [startRecords, finishRecords, guardNode, requestedInstrumentations]

theorem guarded_issueChecked_contract {node : Option DagNode} {now : Nat} {call : MusaCall}
    {message : String} {world next : QueueWorld Id} {result : Result}
    {records : List Instrumentation}
    (ran : guarded device queue node now (fun world => .ok (world.issueChecked device call
      message)) world = .ok (result, records, next)) :
    SubmissionContract device queue node now world.events [call] next.events.trace.calls
      records := by
  obtain ⟨started, _, startedEvents, issued, contract⟩ := guarded_contract device queue ran
  cases issued
  rw [SubmissionContract, ← startedEvents]
  exact contract [call] rfl

theorem guarded_issueChecked_ok (node : Option DagNode) (now : Nat) (call : MusaCall)
    (message : String) (world : QueueWorld Id) :
    ∃ result records next, guarded device queue node now (fun world => .ok
      (world.issueChecked device call message)) world = .ok (result, records, next) :=
  ⟨_, _, _, rfl⟩

end Guard

section Submissions

variable {Id : Type} [DecidableEq Id] (hash : ConfigurationHash Id) (env : LaunchEnvironment)
  (engine : AdaptivityEngine)

/-- For every submission through `submit_memcpy`, `submit_kernel`, `submit_prefetch` or
`submit_memset` that reaches its guard, the calls are the start marker's, the
submission's own, and the finish marker's, in this order, and the records are those the
node's hints ask for with those two markers. Each marker is what its `insert_event`
returned: the pool's next marker when the device accepted its record on the queue's
stream, and `nullptr` otherwise. A Windows build of `submit_prefetch` attaches
nothing. -/
theorem submissions_guard_contract (device : Device) (queue : MusaQueue)
    (node : Option DagNode) (now : Nat) (world : QueueWorld Id) :
    (∀ op result records next,
      queue.submitMemcpy device op node now world = .ok (result, records, next) →
        ∃ copyKind, submitMemcpyKind op.source.device op.dest.device = .ok copyKind ∧
          SubmissionContract device queue node now world.events
            [submitMemcpyCall op copyKind queue.stream] next.events.trace.calls records) ∧
    (∀ requests result records next,
      queue.submitKernel hash env engine device (some requests) node now world =
          .ok (result, records, next) →
        ∃ launched, (∀ call ∈ launched, call.LaunchesOn queue.stream) ∧
          SubmissionContract device queue node now world.events launched
            next.events.trace.calls records) ∧
    (∀ op, ∃ result records next,
      queue.submitPrefetch device false op node now world = .ok (result, records, next) ∧
        SubmissionContract device queue node now world.events [queue.prefetchCall op]
          next.events.trace.calls records) ∧
    (∀ op, queue.submitPrefetch device true op node now world = .ok (.success, [], world)) ∧
    (∀ op, ∃ result records next,
      queue.submitMemset device op node now world = .ok (result, records, next) ∧
        SubmissionContract device queue node now world.events [queue.memsetCall op]
          next.events.trace.calls records) := by
  refine ⟨fun op result records next submitted => ?_, fun requests result records next submitted => ?_,
    fun op => ?_, fun _ => rfl, fun op => ?_⟩
  · obtain ⟨-, -, copyKind, chosen, guardedRan⟩ := MusaQueue.submitMemcpy_guarded device queue submitted
    exact ⟨copyKind, chosen, guarded_issueChecked_contract device queue guardedRan⟩
  · unfold MusaQueue.submitKernel at submitted
    obtain ⟨started, _, startedEvents, launched, contract⟩ :=
      guarded_contract device queue submitted
    obtain ⟨_, launcherRan, finished⟩ := exists_of_map_eq_ok launched
    cases finished
    obtain ⟨added, addedCalls, launches⟩ :=
      runLauncher_appends hash env engine device queue launcherRan
    refine ⟨added, launches, ?_⟩
    rw [SubmissionContract, ← startedEvents,
      ← (runLauncher_keeps hash env engine device queue launcherRan).1]
    exact contract added addedCalls
  · obtain ⟨result, records, next, submitted⟩ :=
      guarded_issueChecked_ok device queue node now (queue.prefetchCall op)
        "musa_queue: musaMemPrefetchAsync() failed" world
    exact ⟨result, records, next, submitted, guarded_issueChecked_contract device queue submitted⟩
  · obtain ⟨result, records, next, submitted⟩ :=
      guarded_issueChecked_ok device queue node now (queue.memsetCall op)
        "musa_queue: musaMemsetAsync() failed" world
    exact ⟨result, records, next, submitted, guarded_issueChecked_contract device queue submitted⟩

end Submissions

def firstCallFails : Device := fun position _ => if position = 0 then 1 else musaSuccess

def timedNode : DagNode :=
  { id := 0, hints := { requestStartTimestamp := true, requestFinishTimestamp := true } }

theorem submissions_guard_contract_timedMemset :
    ∃ result records next,
      (⟨0, some 7⟩ : MusaQueue).submitMemset firstCallFails ⟨4096, 0, 16⟩ (some timedNode) 0
          (QueueWorld.initial 0 : QueueWorld Nat) = .ok (result, records, next) ∧
        SubmissionContract firstCallFails ⟨0, some 7⟩ (some timedNode) 0
          (QueueWorld.initial 0 : QueueWorld Nat).events [.memsetAsync 4096 0 16 (some 7)]
          next.events.trace.calls records :=
  (submissions_guard_contract (⟨fun _ => 0, fun _ _ _ => 0⟩ : ConfigurationHash Nat)
    (singleTargetEnvironment []) ⟨fun _ _ => {}, fun _ => ("image", [])⟩ firstCallFails
    ⟨0, some 7⟩ (some timedNode) 0 (QueueWorld.initial 0)).2.2.2.2 ⟨4096, 0, 16⟩

/-- On a fresh pool whose first `musaEventCreate` fails, a memset for a node asking for
start and finish timestamps gets a start record with no marker, and a finish record
built without a start event although a start was requested. -/
theorem submitMemset_start_record_without_marker :
    ∃ world, (⟨0, some 7⟩ : MusaQueue).submitMemset firstCallFails ⟨4096, 0, 16⟩
        (some timedNode) 0 (QueueWorld.initial 0 : QueueWorld Nat) =
      .ok (.success, [.executionStart none, .executionFinish none (some ⟨0, 0, 0⟩)], world) ∧
      world.events.trace.calls =
        [.eventCreate, .memsetAsync 4096 0 16 (some 7), .eventCreate, .eventRecord 0 (some 7)] :=
  ⟨_, rfl, rfl⟩

end MusaBackend

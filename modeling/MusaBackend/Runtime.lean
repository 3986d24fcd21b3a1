import Mathlib.Data.List.Infix

/-!
The MUSA runtime as the queue sees it.

Every call the backend makes into the MUSA (or MU driver) API is a `MusaCall` value
that names the stream it is issued to. The device answers each call with an error code
chosen by a `Device` oracle that may depend on the call's position in the trace, so
every sequence of outcomes is one choice of oracle. Results, error texts and
assertions are kept as the source has them.

This file models no stream execution: a call is issued, answered, and logged.
-/

namespace MusaBackend

/-- `musaError_t` and `MUresult`; both are zero on success. -/
abbrev MusaError := Nat

def musaSuccess : MusaError := 0

/-- `musaErrorNotReady`, the answer of `musaStreamQuery` on a busy stream. -/
def musaErrorNotReady : MusaError := 600

/-- `error_code{component, code}`. -/
structure ErrorCode where
  component : String
  code : Nat
deriving DecidableEq, Repr

/-- `error_info{message}` or `error_info{message, error_code{...}}`. -/
structure ErrorInfo where
  message : String
  code : Option ErrorCode := none
deriving DecidableEq, Repr

/-- `result`: `make_success()` or `make_error(...)`. -/
inductive Result where
  | success
  | error (info : ErrorInfo)
deriving DecidableEq, Repr

/-- `error_info{message, error_code{"MUSA", err}}`. -/
def musaErrorInfo (message : String) (err : MusaError) : ErrorInfo :=
  { message := message, code := some { component := "MUSA", code := err } }

/-- `make_error(__hipsycl_here(), error_info{message, error_code{"MUSA", err}})`. -/
def musaErrorResult (message : String) (err : MusaError) : Result :=
  .error (musaErrorInfo message err)

/-- An `assert` that fails stops the program; the failing condition is kept. -/
abbrev Assertion := String

theorem exists_of_map_eq_ok {ε α β : Type} {f : α → β} {x : Except ε α} {y : β}
    (mapped : x.map f = .ok y) : ∃ a, x = .ok a ∧ f a = y := by
  cases x with
  | error e => cases mapped
  | ok a => exact ⟨a, rfl, Except.ok.inj mapped⟩

theorem eq_error_of_map_eq_error {ε α β : Type} {f : α → β} {x : Except ε α} {e : ε}
    (mapped : x.map f = .error e) : x = .error e := by
  cases x with
  | error =>
      cases mapped
      rfl
  | ok => cases mapped

/-- `rt::range<3>` and `rt::id<3>`; component `d0` is the slowest-varying one. -/
structure Range3 where
  d0 : Nat
  d1 : Nat
  d2 : Nat
deriving DecidableEq, Repr

/-- `range<3>::size()`. -/
def Range3.size (r : Range3) : Nat := r.d0 * r.d1 * r.d2

def Range3.zero : Range3 := ⟨0, 0, 0⟩

abbrev StreamHandle := Nat
abbrev EventHandle := Nat
abbrev ModuleHandle := Nat

/-- `musaStream_t`; `none` is the null pointer, which MUSA reads as the default stream. -/
abbrev Stream := Option StreamHandle

/-- `musaMemcpyKind` as chosen by `submit_memcpy`. -/
inductive MemcpyKind where
  | hostToDevice
  | deviceToHost
  | deviceToDevice
deriving DecidableEq, Repr

/-- `musaPitchedPtr` as built by `make_musaPitchedPtr(ptr, pitch, xsize, ysize)`. -/
structure PitchedPtr where
  ptr : Nat
  pitch : Nat
  xsize : Nat
  ysize : Nat
deriving DecidableEq, Repr

/-- `musaMemcpy3DParms` after `params {}`: both positions stay zero. -/
structure Memcpy3DParms where
  srcPtr : PitchedPtr
  dstPtr : PitchedPtr
  width : Nat
  height : Nat
  depth : Nat
  kind : MemcpyKind
deriving DecidableEq, Repr

/-- `musaCpuDeviceId`. -/
def musaCpuDeviceId : Int := -1

/-- One call into the MUSA runtime or the MU driver. `launchNative` is the launch a
native kernel launcher makes on the stream of the queue it was given. -/
inductive MusaCall where
  | streamCreateWithFlags
  | streamCreateWithPriority (priority : Int)
  | streamDestroy (stream : Stream)
  | streamSynchronize (stream : Stream)
  | streamQuery (stream : Stream)
  | streamWaitEvent (stream : Stream) (event : EventHandle)
  | streamAddCallback (stream : Stream) (userData : Nat)
  | eventCreate
  | eventRecord (event : EventHandle) (stream : Stream)
  | memcpyAsync (dst src count : Nat) (kind : MemcpyKind) (stream : Stream)
  | memcpy2DAsync (dst dpitch src spitch width height : Nat) (kind : MemcpyKind)
      (stream : Stream)
  | memcpy3DAsync (params : Memcpy3DParms) (stream : Stream)
  | memPrefetchAsync (pointer count : Nat) (location : Int) (stream : Stream)
  | memsetAsync (pointer : Nat) (pattern : Int) (count : Nat) (stream : Stream)
  | moduleGetFunction (module : ModuleHandle) (name : String)
  | launchKernel (module : ModuleHandle) (name : String) (grid block : Range3)
      (sharedMemory : Nat) (stream : Stream)
  | launchNative (name : String) (grid block : Range3) (sharedMemory : Nat) (stream : Stream)
deriving DecidableEq, Repr

/-- The stream a call is issued to, if it is a command on a stream. -/
def MusaCall.target : MusaCall → Option Stream
  | .streamDestroy stream | .streamSynchronize stream | .streamQuery stream
  | .streamWaitEvent stream _ | .streamAddCallback stream _ | .eventRecord _ stream
  | .memcpyAsync _ _ _ _ stream | .memcpy2DAsync _ _ _ _ _ _ _ stream
  | .memcpy3DAsync _ stream | .memPrefetchAsync _ _ _ stream | .memsetAsync _ _ _ stream
  | .launchKernel _ _ _ _ _ stream | .launchNative _ _ _ _ stream => some stream
  | .streamCreateWithFlags | .streamCreateWithPriority _ | .eventCreate
  | .moduleGetFunction _ _ => none

/-- The event handle a call records, if it is `musaEventRecord`. -/
def MusaCall.recordedEvent : MusaCall → Option EventHandle
  | .eventRecord event _ => some event
  | _ => none

/-- The device answers the call at each position of the trace. -/
def Device := Nat → MusaCall → MusaError

def deviceSucceeds : Device := fun _ _ => musaSuccess

/-- What the backend leaves behind: the calls it issued, oldest first, and the errors
it passed to `register_error`. -/
structure Trace where
  calls : List MusaCall := []
  registered : List ErrorInfo := []
deriving Repr

/-- Issue one call and read the device's answer. -/
def Trace.issue (device : Device) (trace : Trace) (call : MusaCall) :
    MusaError × Trace :=
  (device trace.calls.length call, { trace with calls := trace.calls ++ [call] })

/-- `register_error(...)`. -/
def Trace.registerError (trace : Trace) (info : ErrorInfo) : Trace :=
  { trace with registered := trace.registered ++ [info] }

@[simp] theorem Trace.issue_calls (device : Device) (trace : Trace) (call : MusaCall) :
    (trace.issue device call).2.calls = trace.calls ++ [call] := rfl

@[simp] theorem Trace.issue_registered (device : Device) (trace : Trace) (call : MusaCall) :
    (trace.issue device call).2.registered = trace.registered := rfl

@[simp] theorem Trace.registerError_calls (trace : Trace) (info : ErrorInfo) :
    (trace.registerError info).calls = trace.calls := rfl

/-- The fields of `musa_queue` that the submission paths read: its device id and the
stream its constructor left in `_stream`. -/
structure MusaQueue where
  dev : Nat
  stream : Stream
deriving DecidableEq, Repr

/-- The instrumentation requests among a node's execution hints. -/
structure ExecutionHints where
  requestSubmissionTimestamp : Bool := false
  requestStartTimestamp : Bool := false
  requestFinishTimestamp : Bool := false
deriving DecidableEq, Repr

/-- A `dag_node`: its identity and its execution hints. -/
structure DagNode where
  id : Nat
  hints : ExecutionHints := {}
deriving DecidableEq, Repr

/-- `std::string::find(fragment)`: the first position of `fragment` in `text`, or
`none` for `std::string::npos`. -/
def stringFind (text fragment : List Char) : Option Nat :=
  if fragment.isPrefixOf text then some 0
  else
    match text with
    | [] => none
    | _ :: rest => (stringFind rest fragment).map (· + 1)

/-- `text.find(fragment) != std::string::npos`. -/
def containsFragment (text fragment : String) : Bool :=
  (stringFind text.data fragment.data).isSome

theorem stringFind_isSome_iff (text fragment : List Char) :
    (stringFind text fragment).isSome ↔ fragment <:+: text := by
  induction text with
  | nil =>
      by_cases empty : fragment = [] <;>
        simp [stringFind, empty, List.isPrefixOf_iff_prefix]
  | cons head rest ih =>
      rw [stringFind, List.infix_cons_iff, ← List.isPrefixOf_iff_prefix]
      by_cases prefixed : fragment.isPrefixOf (head :: rest) <;> simp [prefixed, ih]

theorem containsFragment_iff (text fragment : String) :
    containsFragment text fragment = true ↔ fragment.data <:+: text.data :=
  stringFind_isSome_iff text.data fragment.data

end MusaBackend

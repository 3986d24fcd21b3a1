import Mathlib.Data.String.Basic
import MusaBackend.KernelCache

/-!
Kernel launches from code objects: `submit_multipass_kernel_from_code_object`,
`submit_sscp_kernel_from_code_object`, the two invokers, and `launch_kernel_from_module`.

Each path computes a configuration, hashes it into a binary id, extends that with the
device into a code-object id, and asks the kernel cache for a code object, handing it
closures that build one on a miss. The closures are definitions of their own here,
`multipassCodeObjectConstructor`, `sscpJitCompiler` and `sscpCodeObjectConstructor`,
so that what they read can be compared with what was hashed.

What lies outside the sources is read from a `LaunchEnvironment`: the HCF cache, the
hardware contexts, the JIT compiler and the loaders behind the executable objects. Its
functions take the trace, so a build may fail once and succeed later. The adaptivity
engine, also absent, is modelled from the spec: it extends the configuration with a
specialization and selects an image and kernels.
-/

namespace MusaBackend

/-- A target node under the root of an HCF container. `binaryAttachment` is what
`get_binary_attachment` extracts, `none` when the data is invalid. -/
structure HcfTargetNode where
  name : String
  hasBinaryDataAttached : Bool
  binaryAttachment : Option String
deriving DecidableEq, Repr

/-- `common::hcf_container` as the multipass path reads it: the subnodes of its root
node, or `none` for a missing root. -/
structure HcfContainer where
  rootNode : Option (List HcfTargetNode)
deriving DecidableEq, Repr

/-- `node::get_subnodes()`. -/
def getSubnodes (root : List HcfTargetNode) : List String := root.map (·.name)

/-- `node::get_subnode(name)`. -/
def getSubnode (root : List HcfTargetNode) (name : String) : Option HcfTargetNode :=
  root.find? (·.name = name)

/-- `hcf_kernel_info`: the compilation flags and options of one kernel. -/
structure HcfKernelInfo where
  compilationFlags : List Nat
  compilationOptions : List (KernelBuildOption × ConfigValue)
deriving DecidableEq, Repr

/-- What `kernel_adaptivity_engine` is constructed with. -/
structure AdaptivityInput where
  hcfObject : Nat
  kernelName : String
  kernelInfo : HcfKernelInfo
  numGroups : Range3
  groupSize : Range3
  args : List Nat
  localMemSize : Nat
deriving DecidableEq, Repr

/-- What the JIT compiler closure reads. -/
structure JitInputs where
  hcfObject : Nat
  selectedImageName : String
  kernelNames : List String
  config : KernelConfiguration
deriving DecidableEq, Repr

/-- A JIT image with the inputs the compiler read to make it (bookkeeping of the
model). -/
structure CompiledImage where
  image : String
  compiledFrom : JitInputs
deriving DecidableEq, Repr

/-- What a `musa_executable_object` was built from. -/
inductive BuildInputs where
  | multipass (hcfObject : Nat) (selectedTarget sourceCode : String) (device : Nat)
  | sscp (image : CompiledImage) (targetArch : String) (hcfObject : Nat)
      (kernelNames : List String) (device : Nat) (config : KernelConfiguration)
deriving DecidableEq, Repr

/-- A successfully built `musa_executable_object`: its inputs, its module and its
`supported_backend_kernel_names()`. -/
structure CodeObject where
  builtFrom : BuildInputs
  module : ModuleHandle
  supportedBackendKernelNames : List String
deriving DecidableEq, Repr

/-- The process-wide state the launch paths read and never change. The three builders
may answer differently as the trace grows. -/
structure LaunchEnvironment where
  getHcf : Nat → Option HcfContainer
  getKernelInfo : Nat → String → Option HcfKernelInfo
  getDeviceArch : Nat → String
  getComputeCapability : Nat → Nat
  withSscpCompiler : Bool
  argumentMappingAvailable : HcfKernelInfo → List Nat → Bool
  buildMultipass : Trace → BuildInputs → Except ErrorInfo (ModuleHandle × List String)
  buildSscp : Trace → BuildInputs → Except ErrorInfo (ModuleHandle × List String)
  jitCompile : Trace → Option HcfContainer → JitInputs → Except ErrorInfo String

/-- What `finalize_binary_configuration` adds before hashing. -/
structure Specialization where
  singleKernel : Option String := none
  buildFlags : List Nat := []
  buildOptions : List (KernelBuildOption × ConfigValue) := []
  specializedArguments : List (Nat × Nat) := []
deriving DecidableEq, Repr

def KernelConfiguration.specialize (config : KernelConfiguration) (added : Specialization) :
    KernelConfiguration :=
  { baseConfiguration := config.baseConfiguration ++
      (added.singleKernel.map fun name => (KernelBaseConfigParameter.singleKernel,
        ConfigValue.text name)).toList
    buildFlags := config.buildFlags ++ added.buildFlags
    buildOptions := config.buildOptions ++ added.buildOptions
    specializedArguments := config.specializedArguments ++ added.specializedArguments }

/-- Modelled from the spec: `kernel_adaptivity_engine`. It specializes the configuration
from the launch it was constructed with, and selects the image and kernels to compile. -/
structure AdaptivityEngine where
  specialization : AdaptivityInput → KernelConfiguration → Specialization
  selectImageAndKernels : AdaptivityInput → String × List String

/-- `kernel_adaptivity_engine::finalize_binary_configuration`, before `generate_id`. -/
def AdaptivityEngine.finalizeBinaryConfiguration (engine : AdaptivityEngine)
    (input : AdaptivityInput) (config : KernelConfiguration) : KernelConfiguration :=
  config.specialize (engine.specialization input config)

/-- `launch_kernel_from_module`. -/
def launchKernelFromModule (device : Device) (module : ModuleHandle) (kernelName : String)
    (gridSize blockSize : Range3) (sharedMemory : Nat) (stream : Stream) (trace : Trace) :
    Result × Trace :=
  let lookup := trace.issue device (.moduleGetFunction module kernelName)
  if lookup.1 ≠ musaSuccess then
    (.error { message := "musa_queue: could not extract kernel from module"
              code := some { component := "MU", code := lookup.1 } }, lookup.2)
  else
    let launch := lookup.2.issue device
      (.launchKernel module kernelName gridSize blockSize sharedMemory stream)
    if launch.1 ≠ musaSuccess then
      (.error { message := "musa_queue: could not submit kernel from module"
                code := some { component := "MU", code := launch.1 } }, launch.2)
    else (.success, launch.2)

theorem launchKernelFromModule_calls (device : Device) (module : ModuleHandle)
    (kernelName : String) (gridSize blockSize : Range3) (sharedMemory : Nat) (stream : Stream)
    (trace : Trace) :
    (launchKernelFromModule device module kernelName gridSize blockSize sharedMemory stream
        trace).2.calls = trace.calls ++ [.moduleGetFunction module kernelName] ∨
      (launchKernelFromModule device module kernelName gridSize blockSize sharedMemory stream
        trace).2.calls = trace.calls ++ [.moduleGetFunction module kernelName,
          .launchKernel module kernelName gridSize blockSize sharedMemory stream] := by
  unfold launchKernelFromModule
  dsimp only
  split
  · exact .inl rfl
  · split <;> exact .inr (by simp)

theorem launchKernelFromModule_launches (device : Device) (module : ModuleHandle)
    (kernelName : String) (gridSize blockSize : Range3) (sharedMemory : Nat) (stream : Stream)
    (trace : Trace) :
    ∃ added, (launchKernelFromModule device module kernelName gridSize blockSize sharedMemory
        stream trace).2.calls = trace.calls ++ added ∧
      ∀ launchedModule name grid block shared target,
        MusaCall.launchKernel launchedModule name grid block shared target ∈ added →
          launchedModule = module ∧ name = kernelName ∧ target = stream := by
  rcases launchKernelFromModule_calls device module kernelName gridSize blockSize sharedMemory
      stream trace with looked | launched
  · exact ⟨_, looked, by simp⟩
  · refine ⟨_, launched, ?_⟩
    simp only [List.mem_cons, MusaCall.launchKernel.injEq, List.mem_singleton, reduceCtorEq,
      false_or, List.not_mem_nil, or_false]
    rintro _ _ _ _ _ _ ⟨rfl, rfl, -, -, -, rfl⟩
    exact ⟨rfl, rfl, rfl⟩

/-- The configuration `submit_multipass_kernel_from_code_object` hashes. -/
def multipassConfiguration (hcfObject : Nat) (selectedTarget : String) :
    KernelConfiguration :=
  ((({} : KernelConfiguration).appendBaseConfiguration .backendId (.backend .musa)
    |>.appendBaseConfiguration .compilationFlow (.flow .explicitMultipass))
    |>.appendBaseConfiguration .hcfObjectId (.natural hcfObject))
    |>.appendBaseConfiguration .targetArch (.text selectedTarget)

/-- The multipass `code_object_constructor` closure. -/
def multipassCodeObjectConstructor (env : LaunchEnvironment) (root : List HcfTargetNode)
    (hcfObject : Nat) (selectedTarget : String) (device : Nat) (trace : Trace) :
    Option CodeObject × Trace :=
  match getSubnode root selectedTarget with
  | none => (none, trace)
  | some tn =>
      if !tn.hasBinaryDataAttached then (none, trace)
      else
        match tn.binaryAttachment with
        | none => (none, trace)
        | some sourceCode =>
            let inputs := BuildInputs.multipass hcfObject selectedTarget sourceCode device
            match env.buildMultipass trace inputs with
            | .error info => (none, trace.registerError info)
            | .ok (module, names) => (some ⟨inputs, module, names⟩, trace)

/-- The loop over `supported_backend_kernel_names()`: the first name that contains the
fragment, or the empty string. -/
def findFullKernelName (names : List String) (fragment : String) : String :=
  (names.find? fun name => containsFragment name fragment).getD ""

/-- How a launch path goes on after its checks: it returns a result, stops at an
assertion, or continues with what the checks produced. -/
inductive Stage (α : Type) where
  | done (result : Result)
  | stop (assertion : Assertion)
  | next (value : α)
deriving DecidableEq, Repr

/-- The checks of `submit_multipass_kernel_from_code_object` before the cache: the HCF
object exists, has a root node and lists a target; the first target is selected. -/
def multipassSelectTarget (env : LaunchEnvironment) (hcfObject : Nat) :
    Stage (List HcfTargetNode × String) :=
  match env.getHcf hcfObject with
  | none => .done (.error { message := "musa_queue: Could not access requested HCF object" })
  | some hcf =>
      match hcf.rootNode with
      | none => .stop "hcf->root_node()"
      | some root =>
          match getSubnodes root with
          | [] => .stop "!available_targets.empty()"
          | selectedTarget :: _ => .next (root, selectedTarget)

/-- The end of `submit_multipass_kernel_from_code_object` once it holds a code object:
find the full kernel name and launch it on the queue's stream. -/
def launchMultipassCodeObject (device : Device) (queue : MusaQueue) (obj : CodeObject)
    (backendKernelName : String) (gridSize blockSize : Range3) (dynamicSharedMem : Nat)
    (trace : Trace) : Except Assertion (Result × Trace) :=
  if obj.module = 0 then .error "mumodule"
  else
    let fullKernelName := findFullKernelName obj.supportedBackendKernelNames backendKernelName
    if fullKernelName.isEmpty then
      .ok (.error { message := "musa_queue: Could not discover full kernel name from partial backend kernel name" }, trace)
    else
      .ok (launchKernelFromModule device obj.module fullKernelName gridSize blockSize
        dynamicSharedMem queue.stream trace)

theorem launchMultipassCodeObject_cases {device : Device} {queue : MusaQueue}
    {obj : CodeObject} {fragment : String} {gridSize blockSize : Range3}
    {dynamicSharedMem : Nat} {trace next : Trace} {result : Result}
    (launched : launchMultipassCodeObject device queue obj fragment gridSize blockSize
      dynamicSharedMem trace = .ok (result, next)) :
    ((findFullKernelName obj.supportedBackendKernelNames fragment).isEmpty = true ∧
        result = .error { message := "musa_queue: Could not discover full kernel name from partial backend kernel name" } ∧
        next = trace) ∨
      ((findFullKernelName obj.supportedBackendKernelNames fragment).isEmpty = false ∧
        launchKernelFromModule device obj.module
            (findFullKernelName obj.supportedBackendKernelNames fragment) gridSize blockSize
            dynamicSharedMem queue.stream trace = (result, next)) := by
  unfold launchMultipassCodeObject at launched
  split at launched
  · cases launched
  · dsimp only at launched
    split at launched
    · cases launched
      exact .inl ⟨‹_›, rfl, rfl⟩
    · exact .inr ⟨Bool.eq_false_iff.mpr ‹_›, Except.ok.inj launched⟩

/-- Once it holds a code object, `submit_multipass_kernel_from_code_object` launches the
first supported name that contains the fragment, never an empty one: whenever that first
name is not empty, however many names contain the fragment, the launch is
`launch_kernel_from_module` with it, so no ambiguity is reported. When no supported name
contains the fragment it launches nothing and reports the missing name. -/
theorem launchMultipassCodeObject_first_match (device : Device) (queue : MusaQueue)
    (obj : CodeObject) (fragment : String) (gridSize blockSize : Range3)
    (dynamicSharedMem : Nat) (trace : Trace) {result : Result} {next : Trace}
    (returned : launchMultipassCodeObject device queue obj fragment gridSize blockSize
      dynamicSharedMem trace = .ok (result, next)) :
    (∃ added, next.calls = trace.calls ++ added ∧
      ∀ module name grid block shared stream,
        MusaCall.launchKernel module name grid block shared stream ∈ added →
          obj.supportedBackendKernelNames.find? (containsFragment · fragment) = some name ∧
            name ≠ "") ∧
    (∀ name, obj.supportedBackendKernelNames.find? (containsFragment · fragment) = some name →
      name ≠ "" →
        launchKernelFromModule device obj.module name gridSize blockSize dynamicSharedMem
          queue.stream trace = (result, next)) ∧
    (obj.supportedBackendKernelNames.find? (containsFragment · fragment) = none →
      result = .error { message := "musa_queue: Could not discover full kernel name from partial backend kernel name" } ∧ next = trace) := by
  rcases launchMultipassCodeObject_cases returned with ⟨empty, rfl, rfl⟩ | ⟨nonempty, launched⟩
  · refine ⟨⟨[], by simp, by simp⟩, fun name found named => ?_, fun _ => ⟨rfl, rfl⟩⟩
    simp only [findFullKernelName, found, Option.getD_some] at empty
    exact absurd ((String.isEmpty_iff name).mp empty) named
  rcases found : obj.supportedBackendKernelNames.find? (containsFragment · fragment) with
    _ | name
  · simp only [findFullKernelName, found, Option.getD_none] at nonempty
    exact absurd nonempty (by decide)
  simp only [findFullKernelName, found, Option.getD_some] at nonempty launched
  have named : name ≠ "" := by
    rintro rfl
    cases nonempty
  obtain ⟨added, calls, launches⟩ := launchKernelFromModule_launches device obj.module name
    gridSize blockSize dynamicSharedMem queue.stream trace
  rw [launched] at calls
  refine ⟨⟨added, calls, fun _ _ _ _ _ _ member => ?_⟩,
    fun _ same _ => Option.some_inj.mp same ▸ launched, nofun⟩
  obtain ⟨-, rfl, -⟩ := launches _ _ _ _ _ _ member
  exact ⟨rfl, named⟩

def ambiguousCodeObject : CodeObject := ⟨.multipass 0 "target" "source" 0, 1, ["ab", "abc"]⟩

theorem launchMultipassCodeObject_first_match_ambiguous :
    launchMultipassCodeObject deviceSucceeds ⟨0, some 7⟩ ambiguousCodeObject "ab" ⟨1, 1, 1⟩
        ⟨1, 1, 1⟩ 0 {} =
      .ok (.success, { calls := [.moduleGetFunction 1 "ab",
        .launchKernel 1 "ab" ⟨1, 1, 1⟩ ⟨1, 1, 1⟩ 0 (some 7)] }) ∧
    (∃ added, [MusaCall.moduleGetFunction 1 "ab",
        .launchKernel 1 "ab" ⟨1, 1, 1⟩ ⟨1, 1, 1⟩ 0 (some 7)] = [] ++ added ∧
      ∀ module name grid block shared stream,
        MusaCall.launchKernel module name grid block shared stream ∈ added →
          ambiguousCodeObject.supportedBackendKernelNames.find? (containsFragment · "ab") =
            some name ∧ name ≠ "") ∧
    (∀ name, ambiguousCodeObject.supportedBackendKernelNames.find? (containsFragment · "ab") =
        some name → name ≠ "" →
      launchKernelFromModule deviceSucceeds 1 name ⟨1, 1, 1⟩ ⟨1, 1, 1⟩ 0 (some 7) {} =
        (.success, { calls := [.moduleGetFunction 1 "ab",
          .launchKernel 1 "ab" ⟨1, 1, 1⟩ ⟨1, 1, 1⟩ 0 (some 7)] })) ∧
    (ambiguousCodeObject.supportedBackendKernelNames.find? (containsFragment · "ab") = none →
      Result.success = .error { message := "musa_queue: Could not discover full kernel name from partial backend kernel name" } ∧
        ({ calls := [.moduleGetFunction 1 "ab",
          .launchKernel 1 "ab" ⟨1, 1, 1⟩ ⟨1, 1, 1⟩ 0 (some 7)] } : Trace) = {}) :=
  have returned : launchMultipassCodeObject deviceSucceeds ⟨0, some 7⟩ ambiguousCodeObject "ab"
      ⟨1, 1, 1⟩ ⟨1, 1, 1⟩ 0 {} =
      .ok (.success, { calls := [.moduleGetFunction 1 "ab",
        .launchKernel 1 "ab" ⟨1, 1, 1⟩ ⟨1, 1, 1⟩ 0 (some 7)] }) := rfl
  ⟨returned, launchMultipassCodeObject_first_match _ _ _ _ _ _ _ _ returned⟩

/-- `musa_multipass_code_object_invoker::submit_kernel`: the kernel name it passes on. -/
def multipassInvokerKernelName (kernelNameTag kernelBodyName : String) : String :=
  if !containsFragment kernelNameTag "__hipsycl_unnamed_kernel" then kernelNameTag
  else kernelBodyName

/-- The configuration `submit_sscp_kernel_from_code_object` builds in its thread-local
`config` from `initial_config`, before the engine finalizes it. -/
def sscpConfiguration (initialConfig : KernelConfiguration) (hcfObject : Nat)
    (kernelInfo : HcfKernelInfo) (computeCapability : Nat) : KernelConfiguration :=
  let config := initialConfig.appendBaseConfiguration .backendId (.backend .musa)
    |>.appendBaseConfiguration .compilationFlow (.flow .sscp)
    |>.appendBaseConfiguration .hcfObjectId (.natural hcfObject)
  let config := kernelInfo.compilationFlags.foldl KernelConfiguration.setBuildFlag config
  let config := kernelInfo.compilationOptions.foldl
    (fun config option => config.setBuildOption option.1 option.2) config
  config.setBuildOption .musaTargetDevice (.natural computeCapability)

/-- The SSCP `jit_compiler` closure. -/
def sscpJitCompiler (env : LaunchEnvironment) (engine : AdaptivityEngine)
    (input : AdaptivityInput) (config : KernelConfiguration) (trace : Trace) :
    Option CompiledImage × Trace :=
  let selected := engine.selectImageAndKernels input
  let inputs : JitInputs := ⟨input.hcfObject, selected.1, selected.2, config⟩
  match env.jitCompile trace (env.getHcf input.hcfObject) inputs with
  | .error info => (none, trace.registerError info)
  | .ok image => (some ⟨image, inputs⟩, trace)

/-- The SSCP `code_object_constructor` closure. -/
def sscpCodeObjectConstructor (env : LaunchEnvironment) (engine : AdaptivityEngine)
    (input : AdaptivityInput) (targetArchName : String) (dev : Nat)
    (config : KernelConfiguration) (image : CompiledImage) (trace : Trace) :
    Option CodeObject × Trace :=
  let inputs := BuildInputs.sscp image targetArchName input.hcfObject
    (engine.selectImageAndKernels input).2 dev config
  match env.buildSscp trace inputs with
  | .error info => (none, trace.registerError info)
  | .ok (module, names) => (some ⟨inputs, module, names⟩, trace)

/-- The end of `submit_sscp_kernel_from_code_object` once it holds a code object: map
the arguments and launch the kernel on the queue's stream. -/
def launchSscpCodeObject (env : LaunchEnvironment) (device : Device) (queue : MusaQueue)
    (obj : CodeObject) (input : AdaptivityInput) (trace : Trace) :
    Except Assertion (Result × Trace) :=
  if obj.module = 0 then .error "mumodule"
  else if !env.argumentMappingAvailable input.kernelInfo input.args then
    .ok (.error { message := "musa_queue: Could not map C++ arguments to kernel arguments" },
      trace)
  else
    .ok (launchKernelFromModule device obj.module input.kernelName input.numGroups
      input.groupSize input.localMemSize queue.stream trace)

/-- What the SSCP path hands the kernel cache: the engine's input, the target
architecture, the finalized thread-local configuration and the two ids. -/
structure SscpCacheRequest (Id : Type) where
  input : AdaptivityInput
  targetArchName : String
  config : KernelConfiguration
  binaryConfigurationId : Id
  codeObjectConfigurationId : Id

/-- The arguments of `submit_multipass_kernel_from_code_object` that it reads. -/
structure MultipassLaunch where
  hcfObject : Nat
  backendKernelName : String
  gridSize : Range3
  blockSize : Range3
  dynamicSharedMem : Nat
deriving DecidableEq, Repr

/-- The arguments of `submit_sscp_kernel_from_code_object` that it reads. -/
structure SscpLaunch where
  hcfObject : Nat
  kernelName : String
  numGroups : Range3
  groupSize : Range3
  localMemSize : Nat
  args : List Nat
  initialConfig : KernelConfiguration
deriving DecidableEq, Repr

section Launch

variable {Id : Type} [DecidableEq Id] (hash : ConfigurationHash Id) (env : LaunchEnvironment)
  (device : Device)

/-- The `code_object_configuration_id` of the multipass path. -/
def multipassCodeObjectConfigurationId (hcfObject : Nat) (selectedTarget : String)
    (dev : Nat) : Id :=
  hash.extendHash (hash.generateId (multipassConfiguration hcfObject selectedTarget))
    .runtimeDevice (.natural dev)

/-- `submit_multipass_kernel_from_code_object`: the result, the cache and the trace, or
the assertion it stops at. -/
def submitMultipassKernelFromCodeObject (queue : MusaQueue)
    (cache : KernelCache Id CodeObject CompiledImage) (trace : Trace)
    (launch : MultipassLaunch) :
    Except Assertion (Result × KernelCache Id CodeObject CompiledImage × Trace) :=
  match multipassSelectTarget env launch.hcfObject with
  | .done result => .ok (result, cache, trace)
  | .stop assertion => .error assertion
  | .next (root, selectedTarget) =>
      match cache.getOrConstructCodeObject
          (multipassCodeObjectConfigurationId hash launch.hcfObject selectedTarget queue.dev)
          (multipassCodeObjectConstructor env root launch.hcfObject selectedTarget queue.dev)
          trace with
      | (none, cache, trace) =>
          .ok (.error { message := "musa_queue: Code object construction failed" },
            cache, trace)
      | (some obj, cache, trace) =>
          (launchMultipassCodeObject device queue obj launch.backendKernelName launch.gridSize
            launch.blockSize launch.dynamicSharedMem trace).map
            fun (result, trace) => (result, cache, trace)

theorem submitMultipassKernelFromCodeObject_cases {queue : MusaQueue}
    {cache next : KernelCache Id CodeObject CompiledImage} {trace nextTrace : Trace}
    {launch : MultipassLaunch} {result : Result}
    (submitted : submitMultipassKernelFromCodeObject hash env device queue cache trace launch =
      .ok (result, next, nextTrace)) :
    (multipassSelectTarget env launch.hcfObject = .done result ∧ next = cache ∧
        nextTrace = trace) ∨
      ∃ root selectedTarget found middle,
        multipassSelectTarget env launch.hcfObject = .next (root, selectedTarget) ∧
        cache.getOrConstructCodeObject
            (multipassCodeObjectConfigurationId hash launch.hcfObject selectedTarget queue.dev)
            (multipassCodeObjectConstructor env root launch.hcfObject selectedTarget queue.dev)
            trace = (found, next, middle) ∧
        ((found = none ∧
            result = .error { message := "musa_queue: Code object construction failed" } ∧
            nextTrace = middle) ∨
          ∃ obj, found = some obj ∧
            launchMultipassCodeObject device queue obj launch.backendKernelName launch.gridSize
              launch.blockSize launch.dynamicSharedMem middle = .ok (result, nextTrace)) := by
  unfold submitMultipassKernelFromCodeObject at submitted
  split at submitted
  · cases submitted
    exact .inl ⟨‹_›, rfl, rfl⟩
  · cases submitted
  · rename_i root selectedTarget selected
    split at submitted
    · cases submitted
      exact .inr ⟨root, selectedTarget, none, _, selected, ‹_›, .inl ⟨rfl, rfl, rfl⟩⟩
    · rename_i obj _ middle built
      obtain ⟨_, launched, finished⟩ := exists_of_map_eq_ok submitted
      simp only [Prod.mk.injEq] at finished
      obtain ⟨rfl, rfl, rfl⟩ := finished
      exact .inr ⟨root, selectedTarget, some obj, middle, selected, built, .inr ⟨obj, rfl, launched⟩⟩

/-- `musa_multipass_code_object_invoker::submit_kernel`. -/
def musaMultipassCodeObjectInvokerSubmitKernel (queue : MusaQueue)
    (cache : KernelCache Id CodeObject CompiledImage) (trace : Trace) (hcfObject : Nat)
    (numGroups groupSize : Range3) (localMemSize : Nat)
    (kernelNameTag kernelBodyName : String) :
    Except Assertion (Result × KernelCache Id CodeObject CompiledImage × Trace) :=
  submitMultipassKernelFromCodeObject hash env device queue cache trace
    ⟨hcfObject, multipassInvokerKernelName kernelNameTag kernelBodyName, numGroups, groupSize,
      localMemSize⟩

/-- The part of `submit_sscp_kernel_from_code_object` up to the cache: look up the kernel
info, reset the thread-local `config` from `initial_config`, extend and finalize it, and
hash it. `none` when there is no kernel info. -/
def sscpCacheRequest (engine : AdaptivityEngine) (dev : Nat) (launch : SscpLaunch) :
    Option (SscpCacheRequest Id) :=
  (env.getKernelInfo launch.hcfObject launch.kernelName).map fun kernelInfo =>
    let input : AdaptivityInput := ⟨launch.hcfObject, launch.kernelName, kernelInfo,
      launch.numGroups, launch.groupSize, launch.args, launch.localMemSize⟩
    let config := engine.finalizeBinaryConfiguration input
      (sscpConfiguration launch.initialConfig launch.hcfObject kernelInfo
        (env.getComputeCapability dev))
    let binaryConfigurationId := hash.generateId config
    { input, config, binaryConfigurationId
      targetArchName := env.getDeviceArch dev
      codeObjectConfigurationId :=
        hash.extendHash binaryConfigurationId .runtimeDevice (.natural dev) }

/-- `submit_sscp_kernel_from_code_object`, with the value it leaves in the thread-local
`config`. -/
def submitSscpKernelFromCodeObject (engine : AdaptivityEngine) (queue : MusaQueue)
    (cache : KernelCache Id CodeObject CompiledImage) (trace : Trace)
    (threadConfig : KernelConfiguration) (launch : SscpLaunch) :
    Except Assertion (Result × KernelCache Id CodeObject CompiledImage × Trace) ×
      KernelConfiguration :=
  if !env.withSscpCompiler then
    (.ok (.error { message := "musa_queue: SSCP kernel launch was requested, but hipSYCL was not built with MUSA SSCP support." }, cache, trace), threadConfig)
  else
    match sscpCacheRequest hash env engine queue.dev launch with
    | none =>
        (.ok (.error { message := "musa_queue: Could not obtain hcf kernel info for kernel " ++
          launch.kernelName }, cache, trace), threadConfig)
    | some request =>
        let launched :=
          match cache.getOrConstructJitCodeObject request.codeObjectConfigurationId
              request.binaryConfigurationId
              (sscpJitCompiler env engine request.input request.config)
              (sscpCodeObjectConstructor env engine request.input request.targetArchName
                queue.dev request.config) trace with
          | (none, cache, trace) =>
              .ok (.error { message := "musa_queue: Code object construction failed" },
                cache, trace)
          | (some obj, cache, trace) =>
              (launchSscpCodeObject env device queue obj request.input trace).map
                fun (result, trace) => (result, cache, trace)
        (launched, request.config)

theorem submitSscpKernelFromCodeObject_cases {engine : AdaptivityEngine} {queue : MusaQueue}
    {cache next : KernelCache Id CodeObject CompiledImage} {trace nextTrace : Trace}
    {threadConfig : KernelConfiguration} {launch : SscpLaunch} {result : Result}
    (submitted : (submitSscpKernelFromCodeObject hash env device engine queue cache trace
      threadConfig launch).1 = .ok (result, next, nextTrace)) :
    ((env.withSscpCompiler = false ∨ sscpCacheRequest hash env engine queue.dev launch = none) ∧
        next = cache ∧ nextTrace = trace) ∨
      ∃ request found middle, env.withSscpCompiler = true ∧
        sscpCacheRequest hash env engine queue.dev launch = some request ∧
        cache.getOrConstructJitCodeObject request.codeObjectConfigurationId
            request.binaryConfigurationId (sscpJitCompiler env engine request.input request.config)
            (sscpCodeObjectConstructor env engine request.input request.targetArchName queue.dev
              request.config) trace = (found, next, middle) ∧
        ((found = none ∧
            result = .error { message := "musa_queue: Code object construction failed" } ∧
            nextTrace = middle) ∨
          ∃ obj, found = some obj ∧
            launchSscpCodeObject env device queue obj request.input middle =
              .ok (result, nextTrace)) := by
  unfold submitSscpKernelFromCodeObject at submitted
  split at submitted
  · rename_i noCompiler
    cases submitted
    exact .inl ⟨.inl (by simpa using noCompiler), rfl, rfl⟩
  rename_i compiler
  have compiler : env.withSscpCompiler = true := by simpa using compiler
  split at submitted
  · cases submitted
    exact .inl ⟨.inr ‹_›, rfl, rfl⟩
  rename_i request requested
  dsimp only at submitted
  split at submitted
  · cases submitted
    exact .inr ⟨request, none, _, compiler, requested, ‹_›, .inl ⟨rfl, rfl, rfl⟩⟩
  · rename_i obj _ middle built
    obtain ⟨_, launched, finished⟩ := exists_of_map_eq_ok submitted
    simp only [Prod.mk.injEq] at finished
    obtain ⟨rfl, rfl, rfl⟩ := finished
    exact .inr ⟨request, some obj, middle, compiler, requested, built, .inr ⟨obj, rfl, launched⟩⟩

/-- `musa_sscp_code_object_invoker::submit_kernel` passes its arguments on. -/
def musaSscpCodeObjectInvokerSubmitKernel (engine : AdaptivityEngine) (queue : MusaQueue)
    (cache : KernelCache Id CodeObject CompiledImage) (trace : Trace)
    (threadConfig : KernelConfiguration) (launch : SscpLaunch) :
    Except Assertion (Result × KernelCache Id CodeObject CompiledImage × Trace) ×
      KernelConfiguration :=
  submitSscpKernelFromCodeObject hash env device engine queue cache trace threadConfig launch

end Launch

def singleTargetEnvironment (names : List String) : LaunchEnvironment where
  getHcf hcfObject :=
    if hcfObject = 0 then some ⟨some [⟨"target", true, some "source"⟩]⟩ else none
  getKernelInfo _ _ := some ⟨[], []⟩
  getDeviceArch _ := "mp_21"
  getComputeCapability _ := 21
  withSscpCompiler := true
  argumentMappingAvailable _ _ := true
  buildMultipass _ _ := .ok (1, names)
  buildSscp _ _ := .ok (1, names)
  jitCompile _ _ _ := .ok "image"

/-- The fragment `"ab"` is contained in both compiled kernel names, and the invoker
launches the first of them instead of failing. -/
theorem multipassInvoker_launches_ambiguous_fragment :
    (["ab", "abc"].filter (containsFragment · "ab")).length = 2 ∧
    ∃ cache trace,
      musaMultipassCodeObjectInvokerSubmitKernel exactHash
          (singleTargetEnvironment ["ab", "abc"]) deviceSucceeds ⟨0, some 7⟩ {} {} 0
          ⟨1, 1, 1⟩ ⟨1, 1, 1⟩ 0 "ab" "body" = .ok (.success, cache, trace) ∧
        MusaCall.launchKernel 1 "ab" ⟨1, 1, 1⟩ ⟨1, 1, 1⟩ 0 (some 7) ∈ trace.calls :=
  ⟨by decide, _, _, rfl, by decide⟩

end MusaBackend

import MusaBackend.Runtime
import Mathlib.Data.List.Nodup

/-!
Kernel configurations, their fingerprints, and the process-wide kernel cache.

Neither `glue::kernel_configuration`, nor `kernel_cache`, nor the hash behind them is
among the sources. The configuration records what the launch paths append to it, in
order. The fingerprint functions `generate_id` and `extend_hash` are parameters,
bundled as a `ConfigurationHash`. The cache follows the spec's two construction
protocols: a direct one keyed by the code-object id, and a JIT one that first looks for
a compiled image under the binary id. It is generic in what it stores, as the spec asks
of a backend-agnostic cache.

Runs are sequential; the cache's mutex is not modelled.
-/

namespace MusaBackend

/-- `backend_id`. -/
inductive BackendId where
  | cuda
  | hip
  | omp
  | levelZero
  | ocl
  | musa
deriving DecidableEq, Repr

/-- `compilation_flow`. -/
inductive CompilationFlow where
  | integratedMultipass
  | explicitMultipass
  | sscp
deriving DecidableEq, Repr

/-- `glue::kernel_base_config_parameter`. -/
inductive KernelBaseConfigParameter where
  | backendId
  | compilationFlow
  | hcfObjectId
  | targetArch
  | runtimeDevice
  | singleKernel
deriving DecidableEq, Repr

/-- `glue::kernel_build_option`; the options other than the target device come from
kernel metadata and are kept by their number. -/
inductive KernelBuildOption where
  | musaTargetDevice
  | other (code : Nat)
deriving DecidableEq, Repr

/-- A value appended to a configuration. -/
inductive ConfigValue where
  | backend (id : BackendId)
  | flow (flow : CompilationFlow)
  | natural (value : Nat)
  | text (value : String)
deriving DecidableEq, Repr

/-- Modelled from the spec: `glue::kernel_configuration`, the value a fingerprint is
computed from. Build flags are kept by their number. -/
structure KernelConfiguration where
  baseConfiguration : List (KernelBaseConfigParameter × ConfigValue) := []
  buildFlags : List Nat := []
  buildOptions : List (KernelBuildOption × ConfigValue) := []
  specializedArguments : List (Nat × Nat) := []
deriving DecidableEq, Repr

/-- Modelled from the spec: `kernel_configuration::append_base_configuration`. -/
def KernelConfiguration.appendBaseConfiguration (config : KernelConfiguration)
    (parameter : KernelBaseConfigParameter) (value : ConfigValue) : KernelConfiguration :=
  { config with baseConfiguration := config.baseConfiguration ++ [(parameter, value)] }

/-- Modelled from the spec: `kernel_configuration::set_build_flag`. -/
def KernelConfiguration.setBuildFlag (config : KernelConfiguration) (flag : Nat) :
    KernelConfiguration :=
  { config with buildFlags := config.buildFlags ++ [flag] }

/-- Modelled from the spec: `kernel_configuration::set_build_option`. -/
def KernelConfiguration.setBuildOption (config : KernelConfiguration)
    (option : KernelBuildOption) (value : ConfigValue) : KernelConfiguration :=
  { config with buildOptions := config.buildOptions ++ [(option, value)] }

@[simp] theorem KernelConfiguration.setBuildFlag_baseConfiguration
    (config : KernelConfiguration) (flag : Nat) :
    (config.setBuildFlag flag).baseConfiguration = config.baseConfiguration := rfl

@[simp] theorem KernelConfiguration.setBuildOption_baseConfiguration
    (config : KernelConfiguration) (option : KernelBuildOption) (value : ConfigValue) :
    (config.setBuildOption option value).baseConfiguration = config.baseConfiguration := rfl

/-- The value of the last entry for `parameter` in the base configuration. -/
def KernelConfiguration.lastBaseValue (config : KernelConfiguration)
    (parameter : KernelBaseConfigParameter) : Option ConfigValue :=
  (config.baseConfiguration.reverse.find? (·.1 = parameter)).map (·.2)

/-- `kernel_configuration::generate_id` and `kernel_configuration::extend_hash`. -/
structure ConfigurationHash (Id : Type) where
  generateId : KernelConfiguration → Id
  extendHash : Id → KernelBaseConfigParameter → ConfigValue → Id

/-- Fingerprints read as injective: distinct inputs never share an id. -/
structure ConfigurationHash.Injective {Id : Type} (hash : ConfigurationHash Id) : Prop where
  generateId : Function.Injective hash.generateId
  extendHash : ∀ first second parameter firstValue secondValue,
    hash.extendHash first parameter firstValue = hash.extendHash second parameter secondValue →
      first = second ∧ firstValue = secondValue

def exactHash :
    ConfigurationHash (KernelConfiguration × List (KernelBaseConfigParameter × ConfigValue)) where
  generateId config := (config, [])
  extendHash id parameter value := (id.1, id.2 ++ [(parameter, value)])

theorem exactHash_injective : exactHash.Injective where
  generateId first second same := congrArg Prod.fst same
  extendHash first second parameter firstValue secondValue same := by
    simp only [exactHash, Prod.mk.injEq] at same
    obtain ⟨extensions, last⟩ := List.append_inj' same.2 rfl
    simp only [List.cons.injEq, Prod.mk.injEq, and_true, true_and] at last
    exact ⟨Prod.ext same.1 extensions, last⟩

/-- Modelled from the spec: the process-wide `kernel_cache`, an append-only store of code
objects by code-object id and of JIT images by binary id. -/
structure KernelCache (Id Obj Img : Type) where
  codeObjects : List (Id × Obj) := []
  images : List (Id × Img) := []

section Cache

variable {Id Obj Img : Type} [DecidableEq Id]

/-- The entry stored under `id`, if any. -/
def lookupEntry {Value : Type} (entries : List (Id × Value)) (id : Id) : Option Value :=
  (entries.find? (·.1 = id)).map (·.2)

/-- Modelled from the spec: `kernel_cache::get_or_construct_code_object`. On a miss the
constructor runs once; a failed build stores nothing. -/
def KernelCache.getOrConstructCodeObject (cache : KernelCache Id Obj Img) (id : Id)
    (construct : Trace → Option Obj × Trace) (trace : Trace) :
    Option Obj × KernelCache Id Obj Img × Trace :=
  match lookupEntry cache.codeObjects id with
  | some obj => (some obj, cache, trace)
  | none =>
      match construct trace with
      | (none, trace) => (none, cache, trace)
      | (some obj, trace) =>
          (some obj, { cache with codeObjects := cache.codeObjects ++ [(id, obj)] }, trace)

/-- Modelled from the spec: the image half of the JIT protocol. A cached image skips the
compiler; a compiled one is stored under the binary id. -/
def KernelCache.getOrCompileImage (cache : KernelCache Id Obj Img) (binaryId : Id)
    (compile : Trace → Option Img × Trace) (trace : Trace) :
    Option Img × KernelCache Id Obj Img × Trace :=
  match lookupEntry cache.images binaryId with
  | some image => (some image, cache, trace)
  | none =>
      match compile trace with
      | (none, trace) => (none, cache, trace)
      | (some image, trace) =>
          (some image, { cache with images := cache.images ++ [(binaryId, image)] }, trace)

/-- Modelled from the spec: `kernel_cache::get_or_construct_jit_code_object`. -/
def KernelCache.getOrConstructJitCodeObject (cache : KernelCache Id Obj Img)
    (codeObjectId binaryId : Id) (compile : Trace → Option Img × Trace)
    (construct : Img → Trace → Option Obj × Trace) (trace : Trace) :
    Option Obj × KernelCache Id Obj Img × Trace :=
  match lookupEntry cache.codeObjects codeObjectId with
  | some obj => (some obj, cache, trace)
  | none =>
      match cache.getOrCompileImage binaryId compile trace with
      | (none, cache, trace) => (none, cache, trace)
      | (some image, cache, trace) =>
          cache.getOrConstructCodeObject codeObjectId (construct image) trace

/-- Every stored entry was made for the id it is stored under. -/
structure KernelCache.Coherent (objectMade : Id → Obj → Prop) (imageMade : Id → Img → Prop)
    (cache : KernelCache Id Obj Img) : Prop where
  codeObjects : ∀ entry ∈ cache.codeObjects, objectMade entry.1 entry.2
  images : ∀ entry ∈ cache.images, imageMade entry.1 entry.2

/-- No id is stored twice, so each configuration was built at most once. -/
structure KernelCache.KeysUnique (cache : KernelCache Id Obj Img) : Prop where
  codeObjects : (cache.codeObjects.map Prod.fst).Nodup
  images : (cache.images.map Prod.fst).Nodup

theorem lookupEntry_mem {Value : Type} {entries : List (Id × Value)} {id : Id} {value : Value}
    (found : lookupEntry entries id = some value) : (id, value) ∈ entries := by
  obtain ⟨entry, hit, rfl⟩ := Option.map_eq_some'.mp found
  have matching := List.find?_some hit
  simp only [decide_eq_true_eq] at matching
  exact matching ▸ List.mem_of_find?_eq_some hit

theorem lookupEntry_none {Value : Type} {entries : List (Id × Value)} {id : Id}
    (missing : lookupEntry entries id = none) : id ∉ entries.map Prod.fst := by
  have absent := List.find?_eq_none.mp (Option.map_eq_none'.mp missing)
  intro member
  obtain ⟨entry, present, rfl⟩ := List.mem_map.mp member
  exact absent entry present (by simp)

theorem nodup_append_of_lookupEntry_none {Value : Type} {entries : List (Id × Value)}
    {id : Id} (value : Value) (unique : (entries.map Prod.fst).Nodup)
    (missing : lookupEntry entries id = none) :
    ((entries ++ [(id, value)]).map Prod.fst).Nodup := by
  simp only [List.map_append, List.map_cons, List.map_nil]
  exact unique.append (List.nodup_singleton _)
    (List.disjoint_singleton.mpr (lookupEntry_none missing))

theorem lookupEntry_append_of_none {Value : Type} {entries : List (Id × Value)} {id : Id}
    (value : Value) (missing : lookupEntry entries id = none) :
    lookupEntry (entries ++ [(id, value)]) id = some value := by
  have absent := Option.map_eq_none'.mp missing
  simp [lookupEntry, List.find?_append, absent]

theorem getOrConstructCodeObject_cases {cache next : KernelCache Id Obj Img} {id : Id}
    {construct : Trace → Option Obj × Trace} {trace nextTrace : Trace} {found : Option Obj}
    (obtained : cache.getOrConstructCodeObject id construct trace = (found, next, nextTrace)) :
    (∃ obj, lookupEntry cache.codeObjects id = some obj ∧ found = some obj ∧ next = cache ∧
        nextTrace = trace) ∨
      (lookupEntry cache.codeObjects id = none ∧ construct trace = (none, nextTrace) ∧
        found = none ∧ next = cache) ∨
      ∃ obj, lookupEntry cache.codeObjects id = none ∧ construct trace = (some obj, nextTrace) ∧
        found = some obj ∧ next = { cache with codeObjects := cache.codeObjects ++ [(id, obj)] } := by
  unfold KernelCache.getOrConstructCodeObject at obtained
  rcases stored : lookupEntry cache.codeObjects id with _ | obj
  · rw [stored] at obtained
    rcases built : construct trace with ⟨_ | obj, built⟩ <;> rw [built] at obtained <;>
      cases obtained
    · exact .inr (.inl ⟨rfl, rfl, rfl, rfl⟩)
    · exact .inr (.inr ⟨obj, rfl, rfl, rfl, rfl⟩)
  · rw [stored] at obtained
    cases obtained
    exact .inl ⟨obj, rfl, rfl, rfl, rfl⟩

theorem getOrCompileImage_cases {cache next : KernelCache Id Obj Img} {binaryId : Id}
    {compile : Trace → Option Img × Trace} {trace nextTrace : Trace} {found : Option Img}
    (obtained : cache.getOrCompileImage binaryId compile trace = (found, next, nextTrace)) :
    (∃ image, lookupEntry cache.images binaryId = some image ∧ found = some image ∧
        next = cache ∧ nextTrace = trace) ∨
      (lookupEntry cache.images binaryId = none ∧ compile trace = (none, nextTrace) ∧
        found = none ∧ next = cache) ∨
      ∃ image, lookupEntry cache.images binaryId = none ∧ compile trace = (some image, nextTrace) ∧
        found = some image ∧ next = { cache with images := cache.images ++ [(binaryId, image)] } := by
  unfold KernelCache.getOrCompileImage at obtained
  rcases stored : lookupEntry cache.images binaryId with _ | image
  · rw [stored] at obtained
    rcases compiled : compile trace with ⟨_ | image, compiled⟩ <;> rw [compiled] at obtained <;>
      cases obtained
    · exact .inr (.inl ⟨rfl, rfl, rfl, rfl⟩)
    · exact .inr (.inr ⟨image, rfl, rfl, rfl, rfl⟩)
  · rw [stored] at obtained
    cases obtained
    exact .inl ⟨image, rfl, rfl, rfl, rfl⟩

theorem getOrConstructJitCodeObject_cases {cache next : KernelCache Id Obj Img}
    {codeObjectId binaryId : Id} {compile : Trace → Option Img × Trace}
    {construct : Img → Trace → Option Obj × Trace} {trace nextTrace : Trace}
    {found : Option Obj}
    (obtained : cache.getOrConstructJitCodeObject codeObjectId binaryId compile construct trace =
      (found, next, nextTrace)) :
    (∃ obj, lookupEntry cache.codeObjects codeObjectId = some obj ∧ found = some obj ∧
        next = cache ∧ nextTrace = trace) ∨
      (lookupEntry cache.codeObjects codeObjectId = none ∧
        cache.getOrCompileImage binaryId compile trace = (none, next, nextTrace) ∧
        found = none) ∨
      ∃ image middle middleTrace, lookupEntry cache.codeObjects codeObjectId = none ∧
        cache.getOrCompileImage binaryId compile trace = (some image, middle, middleTrace) ∧
        middle.getOrConstructCodeObject codeObjectId (construct image) middleTrace =
          (found, next, nextTrace) := by
  unfold KernelCache.getOrConstructJitCodeObject at obtained
  rcases stored : lookupEntry cache.codeObjects codeObjectId with _ | obj
  · rw [stored] at obtained
    rcases compiled : cache.getOrCompileImage binaryId compile trace with
      ⟨_ | image, middle, middleTrace⟩ <;> rw [compiled] at obtained
    · cases obtained
      exact .inr (.inl ⟨rfl, rfl, rfl⟩)
    · exact .inr (.inr ⟨image, middle, middleTrace, rfl, rfl, obtained⟩)
  · rw [stored] at obtained
    cases obtained
    exact .inl ⟨obj, rfl, rfl, rfl, rfl⟩

theorem getOrConstructCodeObject_lookup {cache next : KernelCache Id Obj Img} {id : Id}
    {construct : Trace → Option Obj × Trace} {trace nextTrace : Trace} {obj : Obj}
    (obtained : cache.getOrConstructCodeObject id construct trace = (some obj, next, nextTrace)) :
    lookupEntry next.codeObjects id = some obj := by
  rcases getOrConstructCodeObject_cases obtained with
    ⟨_, stored, found, rfl, -⟩ | ⟨-, -, found, -⟩ | ⟨_, missing, -, found, rfl⟩ <;>
    cases found
  · exact stored
  · exact lookupEntry_append_of_none obj missing

theorem getOrCompileImage_lookup {cache next : KernelCache Id Obj Img} {binaryId : Id}
    {compile : Trace → Option Img × Trace} {trace nextTrace : Trace} {image : Img}
    (obtained : cache.getOrCompileImage binaryId compile trace = (some image, next, nextTrace)) :
    lookupEntry next.images binaryId = some image := by
  rcases getOrCompileImage_cases obtained with
    ⟨_, stored, found, rfl, -⟩ | ⟨-, -, found, -⟩ | ⟨_, missing, -, found, rfl⟩ <;>
    cases found
  · exact stored
  · exact lookupEntry_append_of_none image missing

theorem getOrConstructCodeObject_images {cache next : KernelCache Id Obj Img} {id : Id}
    {construct : Trace → Option Obj × Trace} {trace nextTrace : Trace} {found : Option Obj}
    (obtained : cache.getOrConstructCodeObject id construct trace = (found, next, nextTrace)) :
    next.images = cache.images := by
  rcases getOrConstructCodeObject_cases obtained with
    ⟨-, -, -, rfl, -⟩ | ⟨-, -, -, rfl⟩ | ⟨-, -, -, -, rfl⟩ <;> rfl

theorem getOrConstructJitCodeObject_lookup {cache next : KernelCache Id Obj Img}
    {codeObjectId binaryId : Id} {compile : Trace → Option Img × Trace}
    {construct : Img → Trace → Option Obj × Trace} {trace nextTrace : Trace} {obj : Obj}
    (obtained : cache.getOrConstructJitCodeObject codeObjectId binaryId compile construct trace =
      (some obj, next, nextTrace)) :
    lookupEntry next.codeObjects codeObjectId = some obj := by
  rcases getOrConstructJitCodeObject_cases obtained with
    ⟨_, stored, found, rfl, -⟩ | ⟨-, -, found⟩ | ⟨_, _, _, -, -, built⟩
  · cases found
    exact stored
  · cases found
  · exact getOrConstructCodeObject_lookup built

theorem getOrConstructCodeObject_stored {cache next : KernelCache Id Obj Img} {id : Id}
    {construct : Trace → Option Obj × Trace} {trace nextTrace : Trace} {found : Option Obj}
    (obtained : cache.getOrConstructCodeObject id construct trace = (found, next, nextTrace))
    {storedId : Id} {obj : Obj}
    (stores : next.codeObjects = cache.codeObjects ++ [(storedId, obj)]) :
    storedId = id ∧ construct trace = (some obj, nextTrace) := by
  rcases getOrConstructCodeObject_cases obtained with
    ⟨-, -, -, rfl, -⟩ | ⟨-, -, -, rfl⟩ | ⟨built, -, constructed, -, rfl⟩
  · simp at stores
  · simp at stores
  · obtain ⟨rfl, rfl⟩ := Prod.mk.inj (List.singleton_inj.mp (List.append_cancel_left stores))
    exact ⟨rfl, constructed⟩

theorem getOrCompileImage_stored {cache next : KernelCache Id Obj Img} {binaryId : Id}
    {compile : Trace → Option Img × Trace} {trace nextTrace : Trace} {found : Option Img}
    (obtained : cache.getOrCompileImage binaryId compile trace = (found, next, nextTrace))
    {storedId : Id} {image : Img}
    (stores : next.images = cache.images ++ [(storedId, image)]) :
    storedId = binaryId ∧ compile trace = (some image, nextTrace) := by
  rcases getOrCompileImage_cases obtained with
    ⟨-, -, -, rfl, -⟩ | ⟨-, -, -, rfl⟩ | ⟨compiled, -, made, -, rfl⟩
  · simp at stores
  · simp at stores
  · obtain ⟨rfl, rfl⟩ := Prod.mk.inj (List.singleton_inj.mp (List.append_cancel_left stores))
    exact ⟨rfl, made⟩

theorem getOrCompileImage_codeObjects {cache next : KernelCache Id Obj Img} {binaryId : Id}
    {compile : Trace → Option Img × Trace} {trace nextTrace : Trace} {found : Option Img}
    (obtained : cache.getOrCompileImage binaryId compile trace = (found, next, nextTrace)) :
    next.codeObjects = cache.codeObjects := by
  rcases getOrCompileImage_cases obtained with
    ⟨-, -, -, rfl, -⟩ | ⟨-, -, -, rfl⟩ | ⟨-, -, -, -, rfl⟩ <;> rfl

theorem getOrConstructJitCodeObject_stored {cache next : KernelCache Id Obj Img}
    {codeObjectId binaryId : Id} {compile : Trace → Option Img × Trace}
    {construct : Img → Trace → Option Obj × Trace} {trace nextTrace : Trace}
    {found : Option Obj}
    (obtained : cache.getOrConstructJitCodeObject codeObjectId binaryId compile construct trace =
      (found, next, nextTrace))
    {storedId : Id} {obj : Obj}
    (stores : next.codeObjects = cache.codeObjects ++ [(storedId, obj)]) :
    storedId = codeObjectId ∧ ∃ image middleTrace, lookupEntry next.images binaryId = some image ∧
      construct image middleTrace = (some obj, nextTrace) := by
  rcases getOrConstructJitCodeObject_cases obtained with
    ⟨-, -, -, rfl, -⟩ | ⟨-, compiled, -⟩ | ⟨image, middle, middleTrace, -, compiled, built⟩
  · simp at stores
  · simp [getOrCompileImage_codeObjects compiled] at stores
  · rw [← getOrCompileImage_codeObjects compiled] at stores
    obtain ⟨rfl, constructed⟩ := getOrConstructCodeObject_stored built stores
    refine ⟨rfl, image, middleTrace, ?_, constructed⟩
    rw [getOrConstructCodeObject_images built]
    exact getOrCompileImage_lookup compiled

theorem getOrConstructJitCodeObject_storedImage {cache next : KernelCache Id Obj Img}
    {codeObjectId binaryId : Id} {compile : Trace → Option Img × Trace}
    {construct : Img → Trace → Option Obj × Trace} {trace nextTrace : Trace}
    {found : Option Obj}
    (obtained : cache.getOrConstructJitCodeObject codeObjectId binaryId compile construct trace =
      (found, next, nextTrace))
    {storedId : Id} {image : Img}
    (stores : next.images = cache.images ++ [(storedId, image)]) :
    storedId = binaryId ∧ ∃ compiledTrace, compile trace = (some image, compiledTrace) := by
  rcases getOrConstructJitCodeObject_cases obtained with
    ⟨-, -, -, rfl, -⟩ | ⟨-, compiled, -⟩ | ⟨_, middle, middleTrace, -, compiled, built⟩
  · simp at stores
  · exact (getOrCompileImage_stored compiled stores).imp_right (⟨_, ·⟩)
  · rw [getOrConstructCodeObject_images built] at stores
    exact (getOrCompileImage_stored compiled stores).imp_right (⟨_, ·⟩)

section Protocols

variable {objectMade : Id → Obj → Prop} {imageMade : Id → Img → Prop}
  {cache : KernelCache Id Obj Img} (trace : Trace)

theorem getOrConstructCodeObject_hit {id : Id} {obj : Obj}
    (construct : Trace → Option Obj × Trace) (stored : lookupEntry cache.codeObjects id = some obj) :
    cache.getOrConstructCodeObject id construct trace = (some obj, cache, trace) := by
  simp [KernelCache.getOrConstructCodeObject, stored]

theorem getOrConstructCodeObject_coherent {id : Id} {construct : Trace → Option Obj × Trace}
    (coherent : cache.Coherent objectMade imageMade)
    (builds : ∀ trace obj next, construct trace = (some obj, next) → objectMade id obj) :
    (∀ obj, (cache.getOrConstructCodeObject id construct trace).1 = some obj →
        objectMade id obj) ∧
      (cache.getOrConstructCodeObject id construct trace).2.1.Coherent objectMade imageMade := by
  unfold KernelCache.getOrConstructCodeObject
  rcases stored : lookupEntry cache.codeObjects id with _ | obj
  · rcases built : construct trace with ⟨_ | obj, next⟩
    · exact ⟨by simp, coherent⟩
    · have made := builds trace obj next built
      refine ⟨by simpa using made, ⟨?_, coherent.images⟩⟩
      intro entry member
      rcases List.mem_append.mp member with old | new
      · exact coherent.codeObjects entry old
      · rw [List.mem_singleton.mp new]
        exact made
  · exact ⟨by simpa using coherent.codeObjects _ (lookupEntry_mem stored), coherent⟩

theorem getOrConstructCodeObject_keysUnique {id : Id} (construct : Trace → Option Obj × Trace)
    (unique : cache.KeysUnique) :
    (cache.getOrConstructCodeObject id construct trace).2.1.KeysUnique := by
  unfold KernelCache.getOrConstructCodeObject
  rcases stored : lookupEntry cache.codeObjects id with _ | obj
  · rcases construct trace with ⟨_ | obj, next⟩
    · exact unique
    · exact ⟨nodup_append_of_lookupEntry_none obj unique.codeObjects stored, unique.images⟩
  · exact unique

theorem getOrCompileImage_coherent {binaryId : Id} {compile : Trace → Option Img × Trace}
    (coherent : cache.Coherent objectMade imageMade)
    (compiles : ∀ trace image next, compile trace = (some image, next) →
      imageMade binaryId image) :
    (∀ image, (cache.getOrCompileImage binaryId compile trace).1 = some image →
        imageMade binaryId image) ∧
      (cache.getOrCompileImage binaryId compile trace).2.1.Coherent objectMade imageMade ∧
      (cache.getOrCompileImage binaryId compile trace).2.1.codeObjects = cache.codeObjects := by
  unfold KernelCache.getOrCompileImage
  rcases stored : lookupEntry cache.images binaryId with _ | image
  · rcases compiled : compile trace with ⟨_ | image, next⟩
    · exact ⟨by simp, coherent, rfl⟩
    · have made := compiles trace image next compiled
      refine ⟨by simpa using made, ⟨coherent.codeObjects, ?_⟩, rfl⟩
      intro entry member
      rcases List.mem_append.mp member with old | new
      · exact coherent.images entry old
      · rw [List.mem_singleton.mp new]
        exact made
  · exact ⟨by simpa using coherent.images _ (lookupEntry_mem stored), coherent, rfl⟩

theorem getOrCompileImage_keysUnique (binaryId : Id) (compile : Trace → Option Img × Trace)
    (unique : cache.KeysUnique) :
    (cache.getOrCompileImage binaryId compile trace).2.1.KeysUnique := by
  unfold KernelCache.getOrCompileImage
  rcases stored : lookupEntry cache.images binaryId with _ | image
  · rcases compile trace with ⟨_ | image, next⟩
    · exact unique
    · exact ⟨unique.codeObjects, nodup_append_of_lookupEntry_none image unique.images stored⟩
  · exact unique

theorem getOrConstructJitCodeObject_coherent {codeObjectId binaryId : Id}
    {compile : Trace → Option Img × Trace} {construct : Img → Trace → Option Obj × Trace}
    (coherent : cache.Coherent objectMade imageMade)
    (compiles : ∀ trace image next, compile trace = (some image, next) →
      imageMade binaryId image)
    (builds : ∀ image trace obj next, imageMade binaryId image →
      construct image trace = (some obj, next) → objectMade codeObjectId obj) :
    (∀ obj, (cache.getOrConstructJitCodeObject codeObjectId binaryId compile construct
        trace).1 = some obj → objectMade codeObjectId obj) ∧
      (cache.getOrConstructJitCodeObject codeObjectId binaryId compile construct
        trace).2.1.Coherent objectMade imageMade := by
  unfold KernelCache.getOrConstructJitCodeObject
  rcases stored : lookupEntry cache.codeObjects codeObjectId with _ | obj
  · obtain ⟨imageFor, imageCoherent, _⟩ :=
      getOrCompileImage_coherent trace coherent compiles
    rcases compiled : cache.getOrCompileImage binaryId compile trace with
      ⟨_ | image, next, nextTrace⟩
    · rw [compiled] at imageCoherent
      exact ⟨by simp, imageCoherent⟩
    · rw [compiled] at imageCoherent imageFor
      exact getOrConstructCodeObject_coherent nextTrace imageCoherent
        (builds image · · · (imageFor image rfl))
  · exact ⟨by simpa using coherent.codeObjects _ (lookupEntry_mem stored), coherent⟩

theorem getOrConstructJitCodeObject_keysUnique {codeObjectId binaryId : Id}
    (compile : Trace → Option Img × Trace) (construct : Img → Trace → Option Obj × Trace)
    (unique : cache.KeysUnique) :
    (cache.getOrConstructJitCodeObject codeObjectId binaryId compile construct
      trace).2.1.KeysUnique := by
  unfold KernelCache.getOrConstructJitCodeObject
  rcases stored : lookupEntry cache.codeObjects codeObjectId with _ | obj
  · have imageUnique := getOrCompileImage_keysUnique trace binaryId compile
      unique
    rcases compiled : cache.getOrCompileImage binaryId compile trace with
      ⟨_ | image, next, nextTrace⟩
    · rw [compiled] at imageUnique
      exact imageUnique
    · rw [compiled] at imageUnique
      exact getOrConstructCodeObject_keysUnique nextTrace _ imageUnique
  · exact unique

end Protocols

theorem getOrConstructCodeObject_calls (cache : KernelCache Id Obj Img) (id : Id)
    {construct : Trace → Option Obj × Trace}
    (preserves : ∀ trace, (construct trace).2.calls = trace.calls) (trace : Trace) :
    (cache.getOrConstructCodeObject id construct trace).2.2.calls = trace.calls := by
  unfold KernelCache.getOrConstructCodeObject
  split
  · rfl
  · rcases built : construct trace with ⟨_ | obj, next⟩ <;> simpa [built] using preserves trace

theorem getOrCompileImage_calls (cache : KernelCache Id Obj Img) (binaryId : Id)
    {compile : Trace → Option Img × Trace}
    (preserves : ∀ trace, (compile trace).2.calls = trace.calls) (trace : Trace) :
    (cache.getOrCompileImage binaryId compile trace).2.2.calls = trace.calls := by
  unfold KernelCache.getOrCompileImage
  split
  · rfl
  · rcases built : compile trace with ⟨_ | image, next⟩ <;> simpa [built] using preserves trace

theorem getOrConstructJitCodeObject_calls (cache : KernelCache Id Obj Img)
    (codeObjectId binaryId : Id) {compile : Trace → Option Img × Trace}
    {construct : Img → Trace → Option Obj × Trace}
    (compilePreserves : ∀ trace, (compile trace).2.calls = trace.calls)
    (constructPreserves : ∀ image trace, (construct image trace).2.calls = trace.calls)
    (trace : Trace) :
    (cache.getOrConstructJitCodeObject codeObjectId binaryId compile construct
      trace).2.2.calls = trace.calls := by
  unfold KernelCache.getOrConstructJitCodeObject
  split
  · rfl
  · have compiled := getOrCompileImage_calls cache binaryId compilePreserves trace
    rcases imaged : cache.getOrCompileImage binaryId compile trace with
      ⟨_ | image, next, nextTrace⟩ <;> rw [imaged] at compiled
    · exact compiled
    · rw [← compiled]
      exact getOrConstructCodeObject_calls next codeObjectId (constructPreserves image) nextTrace

end Cache

end MusaBackend

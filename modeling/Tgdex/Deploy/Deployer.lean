import Tgdex.Effects.Sequence
import Tgdex.Validator.SearchQuery

namespace Tgdex.Deploy

open Tgdex.Data Tgdex.Java Tgdex.Effects
open Tgdex.Validator (Jvm intValue)

/-! # Deployer

The verticles are deployed one after the other, each from the callback of the
one before it. -/

structure WorkerOptions where
  poolName : Option String
  poolSize : Int
  maxExecuteMinutes : Nat := 30

structure DeploymentOptions where
  instances : Int
  config : JsonObject
  worker : Option WorkerOptions := none

/-- `vertx.deployVerticle`. -/
structure Deployment where
  moduleName : Option String
  options : DeploymentOptions

/-- The id of the deployment, or why there is none. -/
abbrev Deployed : Deployment → Type := fun _ => Except String String

/-- Why the recursion has ended early. -/
inductive Stop where
  | threw (cause : Throwable)
  | failed (moduleName : Option String) (cause : String)
  | notFound (moduleName : String)
  | unreadable
  | notJoined
deriving DecidableEq

abbrev Work : Type := Task Deployment Deployed Unit (Except Stop Unit)

/-- An element of a JSON array that is read as an object. -/
def elementObject : Json → Except Throwable (Option JsonObject)
  | .obj fields => .ok (some ⟨fields⟩)
  | .null => .ok none
  | _ => .error .classCast

/-- `config.mergeIn(commonConfigs, true)`. -/
def mergeIn (config commonConfigs : Option JsonObject) : Except Throwable JsonObject := do
  return (← nonNull config).mergeDeep (← nonNull commonConfigs)

section

variable (jvm : Jvm)

/-- `getInteger`, unboxed. -/
def getInt (config : JsonObject) (key : String) : Except Throwable Int := do
  intValue jvm (← nonNull (config.get? key))

def deploymentOptions (config : JsonObject) : Except Throwable DeploymentOptions := do
  let numInstances ← getInt jvm config "verticleInstances"
  let isWorkerVerticle ← nonNull (← config.getBoolean "isWorkerVerticle")
  if isWorkerVerticle then
    let poolSize ← getInt jvm config "threadPoolSize"
    return { instances := numInstances, config, worker := some ⟨config.getString "threadPoolName", poolSize, 30⟩ }
  else return { instances := numInstances, config }

variable (configs : JsonObject)

def getConfigForModule (module : Json) : Except Throwable JsonObject := do
  let commonConfigs ← configs.getJsonObject "commonConfig"
  mergeIn (← elementObject module) commonConfigs

def moduleDeployment (module : Json) : Except Throwable Deployment := do
  let moduleConfigurations ← getConfigForModule configs module
  return ⟨moduleConfigurations.getString "id", ← deploymentOptions jvm moduleConfigurations⟩

def deployModules : List Json → Work
  | [] => .done (.ok ())
  | module :: rest =>
      match moduleDeployment jvm configs module with
      | .error cause => .done (.error (.threw cause))
      | .ok deployment => .await deployment fun deployed _ =>
          match deployed with
          | .ok _ => deployModules rest
          | .error cause => .done (.error (.failed deployment.moduleName cause))

/-- The recursion over the index of the module. -/
def recursiveDeploy (i : Nat) : Work :=
  match configs.getJsonArray "modules" with
  | .error cause => .done (.error (.threw cause))
  | .ok none => .done (.error (.threw .nullPointer))
  | .ok (some modules) => deployModules jvm configs (modules.drop i)

theorem recursiveDeploy_eq {modules : List Json} (given : configs.getJsonArray "modules" = .ok (some modules)) (i : Nat) :
    recursiveDeploy jvm configs i =
      match modules[i]? with
      | none => .done (.ok ())
      | some module =>
          match moduleDeployment jvm configs module with
          | .error cause => .done (.error (.threw cause))
          | .ok deployment => .await deployment fun deployed _ =>
              match deployed with
              | .ok _ => recursiveDeploy jvm configs (i + 1)
              | .error cause => .done (.error (.failed deployment.moduleName cause)) := by
  simp only [recursiveDeploy, given]
  cases found : modules[i]? with
  | none =>
      rw [List.drop_eq_nil_of_le (List.getElem?_eq_none_iff.mp found)]
      rfl
  | some module =>
      obtain ⟨bound, rfl⟩ := List.getElem?_eq_some_iff.mp found
      rw [List.drop_eq_getElem_cons bound]
      rfl

end

section

variable (jvm : Jvm) (file : ConfigurationFile)

end

end Tgdex.Deploy

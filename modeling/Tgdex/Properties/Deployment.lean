import Mathlib
import Tgdex.Deploy.Deployer

namespace Tgdex.Properties

open Tgdex.Data Tgdex.Java Tgdex.Effects Tgdex.Deploy
open Tgdex.Validator (Jvm)

/-! # The deployment of the verticles -/

variable {jvm : Jvm} {configs : JsonObject} {modules : List Json} {exchanges : List (Sigma Deployed)}
  {result : Except Stop Unit}

def moduleTurns (jvm : Jvm) (configs : JsonObject) : Turns Deployment Deployed Unit Json Stop where
  prepare _ module := ((moduleDeployment jvm configs module).mapError .threw).map fun deployment => (deployment, ())
  judge _ deployment deployed := (deployed.mapError (.failed deployment.moduleName)).map fun _ => ()

theorem deployModules_eq_inTurn (modules : List Json) :
    deployModules jvm configs modules = (moduleTurns jvm configs).inTurn () modules := by
  induction modules with
  | nil => rfl
  | cons module rest ih =>
      simp only [deployModules, Turns.inTurn, moduleTurns]
      cases moduleDeployment jvm configs module with
      | error cause => rfl
      | ok deployment =>
          simp only [Except.mapError, Except.map]
          congr 1
          funext deployed _
          cases deployed with
          | error cause => rfl
          | ok id => exact ih

def Succeeds (exchange : Sigma Deployed) : Prop := ∃ id, exchange.2 = .ok id

/-- The deployments of a run that has come to its end.  They are those of the
first modules in their order, and all but the last have succeeded. -/
structure FollowsModules (jvm : Jvm) (configs : JsonObject) (modules : List Json) (exchanges : List (Sigma Deployed))
    (result : Except Stop Unit) : Prop where
  ordered : List.Forall₂ (fun module exchange => moduleDeployment jvm configs module = .ok exchange.1)
    (modules.take exchanges.length) exchanges
  earlier : ∀ exchange ∈ exchanges.dropLast, Succeeds exchange
  ending : match result with
    | .ok () => exchanges.length = modules.length ∧ ∀ exchange ∈ exchanges, Succeeds exchange
    | .error (.threw cause) => (∀ exchange ∈ exchanges, Succeeds exchange) ∧
        ∃ module, modules[exchanges.length]? = some module ∧ moduleDeployment jvm configs module = .error cause
    | .error (.failed moduleName cause) => ∃ last, exchanges.getLast? = some last ∧ last.2 = .error cause ∧
        last.1.moduleName = moduleName
    | .error _ => False

theorem prepare_eq_ok {state next : Unit} {module : Json} {deployment : Deployment}
    (prepared : (moduleTurns jvm configs).prepare state module = .ok (deployment, next)) :
    moduleDeployment jvm configs module = .ok deployment := by
  simp only [moduleTurns] at prepared
  cases made : moduleDeployment jvm configs module with
  | error cause =>
      rw [made] at prepared
      cases prepared
  | ok other =>
      rw [made] at prepared
      cases prepared
      rfl

theorem prepare_eq_error {state : Unit} {module : Json} {stop : Stop}
    (prepared : (moduleTurns jvm configs).prepare state module = .error stop) :
    ∃ cause, moduleDeployment jvm configs module = .error cause ∧ stop = .threw cause := by
  simp only [moduleTurns] at prepared
  cases made : moduleDeployment jvm configs module with
  | error cause =>
      rw [made] at prepared
      cases prepared
      exact ⟨cause, rfl, rfl⟩
  | ok deployment =>
      rw [made] at prepared
      cases prepared

theorem mem_dropLast_cons {first other : Sigma Deployed} {rest : List (Sigma Deployed)}
    (member : other ∈ (first :: rest).dropLast) : other = first ∨ other ∈ rest.dropLast := by
  cases rest with
  | nil => cases member
  | cons second more => exact List.mem_cons.mp member

theorem followsModules_of_works {state : Unit} (works : (moduleTurns jvm configs).Works state modules exchanges result) :
    FollowsModules jvm configs modules exchanges result := by
  induction works with
  | finished => exact ⟨.nil, by simp, rfl, by simp⟩
  | unprepared prepared =>
      obtain ⟨cause, failed, rfl⟩ := prepare_eq_error prepared
      exact ⟨.nil, by simp, by simp, _, rfl, failed⟩
  | @stopped state next module rest deployment deployed stop prepared judged =>
      refine ⟨.cons (prepare_eq_ok prepared) .nil, by simp, ?_⟩
      cases deployed with
      | ok id => cases judged
      | error cause =>
          cases judged
          exact ⟨_, rfl, rfl, rfl⟩
  | @worked state next module rest deployment deployed exchanges result prepared judged onward ih =>
      have succeeds : Succeeds ⟨deployment, deployed⟩ := by
        cases deployed with
        | ok id => exact ⟨id, rfl⟩
        | error cause => cases judged
      refine ⟨.cons (prepare_eq_ok prepared) ih.ordered, fun exchange member => ?_, ?_⟩
      · rcases mem_dropLast_cons member with rfl | later
        · exact succeeds
        · exact ih.earlier exchange later
      · have ending := ih.ending
        rcases result with stop | _
        · cases stop with
          | threw cause => exact ⟨List.forall_mem_cons.mpr ⟨succeeds, ending.1⟩, ending.2⟩
          | failed moduleName cause =>
              obtain ⟨last, found, failed, named⟩ := ending
              exact ⟨last, by rw [List.getLast?_cons, found, Option.getD_some], failed, named⟩
          | notFound moduleName => exact ending
          | unreadable => exact ending
          | notJoined => exact ending
        · exact ⟨congrArg (· + 1) ending.1, List.forall_mem_cons.mpr ⟨succeeds, ending.2⟩⟩

theorem config_of_deploymentOptions {config : JsonObject} {options : DeploymentOptions}
    (made : deploymentOptions jvm config = .ok options) : options.config = config := by
  simp only [deploymentOptions, bind_eq_ok] at made
  obtain ⟨numInstances, -, flag, -, isWorkerVerticle, -, made⟩ := made
  split at made
  · simp only [bind_eq_ok, pure, Except.pure, Except.ok.injEq] at made
    obtain ⟨poolSize, -, rfl⟩ := made
    rfl
  · cases made
    rfl

theorem config_of_moduleDeployment {module : Json} {deployment : Deployment}
    (made : moduleDeployment jvm configs module = .ok deployment) :
    ∃ common fields, configs.getJsonObject "commonConfig" = .ok (some common) ∧ module = .obj fields ∧
      deployment.options.config = (⟨fields⟩ : JsonObject).mergeDeep common := by
  simp only [moduleDeployment, getConfigForModule, mergeIn, bind_eq_ok, nonNull_eq_ok, pure, Except.pure,
    Except.ok.injEq] at made
  obtain ⟨merged, ⟨common, given, config, element, own, rfl, other, rfl, rfl⟩, options, optionsOf, rfl⟩ := made
  cases module with
  | obj fields =>
      cases element
      exact ⟨other, fields, given, rfl, config_of_deploymentOptions optionsOf⟩
  | null => cases element
  | bool value => cases element
  | num literal => cases element
  | str text => cases element
  | arr items => cases element

/-- However the deployments turn out, they are those of the configured modules
in their order, each begun when the one before it has succeeded, and every
verticle gets the settings of the common configuration. -/
theorem deployment_follows_configuration (jvm : Jvm) (configs : JsonObject) (modules : List Json)
    (given : configs.getJsonArray "modules" = .ok (some modules)) (exchanges : List (Sigma Deployed))
    (result : Except Stop Unit) (ran : (recursiveDeploy jvm configs 0).Trace exchanges result) :
    FollowsModules jvm configs modules exchanges result ∧
      ∀ exchange ∈ exchanges, ∃ common, configs.getJsonObject "commonConfig" = .ok (some common) ∧
        ∀ key value, common.get? key = some value → value.isObject = false →
          exchange.1.options.config.get? key = some value := by
  rw [recursiveDeploy, given] at ran
  simp only [List.drop_zero, deployModules_eq_inTurn] at ran
  have follows := followsModules_of_works (Turns.trace_inTurn_iff.mp ran)
  refine ⟨follows, forall_of_forall₂ (fun module _ exchange made => ?_) follows.ordered⟩
  obtain ⟨common, fields, known, -, merged⟩ := config_of_moduleDeployment made
  refine ⟨common, known, fun key value setting scalar => ?_⟩
  rw [merged]
  exact JsonObject.get?_mergeDeep_scalar _ setting scalar

def verticle (id : String) (settings : List (String × Json)) : Json :=
  .obj ([("id", .str id), ("verticleInstances", .num "1")] ++ settings)

def plainJvm : Jvm := ⟨fun _ => 0, fun _ => none⟩

/-- The second module says nothing of being a worker. -/
def twoModules : JsonObject :=
  ⟨[("zookeepers", .arr []), ("commonConfig", .obj [("docIndex", .str "index")]),
    ("modules", .arr [verticle "first" [("isWorkerVerticle", .bool false)], verticle "second" []])]⟩

def firstDeployment : Deployment :=
  ⟨some "first", { instances := 1, config := ⟨[("id", .str "first"), ("verticleInstances", .num "1"),
    ("isWorkerVerticle", .bool false), ("docIndex", .str "index")]⟩ }⟩

def secondConfig : JsonObject :=
  ⟨[("id", .str "second"), ("verticleInstances", .num "1"), ("docIndex", .str "index")]⟩

theorem getInt_one (config : JsonObject) (given : config.get? "verticleInstances" = some (.num "1")) :
    getInt plainJvm config "verticleInstances" = .ok 1 := by
  have read : "1".toInt? = some 1 := Int.toInt?_repr 1
  simp only [getInt, given, nonNull, Validator.intValue, read, bind, Except.bind]
  rfl

theorem deployment_follows_configuration_first :
    FollowsModules plainJvm twoModules [verticle "first" [("isWorkerVerticle", .bool false)], verticle "second" []]
      [⟨firstDeployment, .ok "id"⟩] (.error (.threw .nullPointer)) := by
  have first : moduleDeployment plainJvm twoModules (verticle "first" [("isWorkerVerticle", .bool false)]) =
      .ok firstDeployment := by
    have merged : getConfigForModule twoModules (verticle "first" [("isWorkerVerticle", .bool false)]) =
        .ok firstDeployment.options.config := rfl
    simp only [moduleDeployment, merged, deploymentOptions, bind, Except.bind,
      getInt_one firstDeployment.options.config rfl]
    rfl
  have second : moduleDeployment plainJvm twoModules (verticle "second" []) = .error .nullPointer := by
    have merged : getConfigForModule twoModules (verticle "second" []) = .ok secondConfig := rfl
    simp only [moduleDeployment, merged, deploymentOptions, bind, Except.bind, getInt_one secondConfig rfl]
    rfl
  have given : twoModules.getJsonArray "modules" =
      .ok (some [verticle "first" [("isWorkerVerticle", .bool false)], verticle "second" []]) := rfl
  have ran : (recursiveDeploy plainJvm twoModules 0).Trace [⟨firstDeployment, .ok "id"⟩]
      (.error (.threw .nullPointer)) := by
    simp only [recursiveDeploy, given, List.drop_zero, deployModules, first, second]
    exact ⟨.ok "id", (), [], rfl, rfl, rfl⟩
  exact (deployment_follows_configuration plainJvm twoModules _ given _ _ ran).1

variable {moduleName other : String} {rest : List Json} {fields : List (String × Json)} {id : String}

end Tgdex.Properties

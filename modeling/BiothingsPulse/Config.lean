import BiothingsPulse.Plugins.Models

/-! # Runtime configuration -/

namespace BiothingsPulse

/-- A length of time that is a float number of seconds: in microseconds, and as
`str` prints it. -/
structure Seconds where
  micros : Nat
  text : String
  deriving DecidableEq, Repr

/-- The `submodules` setting of a repository. -/
inductive Submodules where
  | none
  | all
  | under (paths : List String)
  deriving DecidableEq, Repr

/-- A single repository to monitor. -/
structure RepoSpec where
  name : String
  gitUrl : String
  ref : Option String := none
  enabled : Bool := true
  manifestGlobs : List String := []
  advancedGlobs : List String := []
  submodules : Submodules := .none
  /-- Extra pip packages that this repository's plugins need at check time. -/
  requirements : List String := []
  /-- Requirements files to pre-install, relative to the repository. -/
  requirementsFiles : List String := []
  /-- Directories added to `sys.path` while checking, relative to the repository. -/
  sysPath : List String := []
  deriving DecidableEq, Repr

/-- The monitored repositories plus default glob patterns. -/
structure Registry where
  manifestGlobs : List String := ["plugins/*/manifest.json", "src/plugins/*/manifest.json"]
  advancedGlobs : List String := ["**/hub/dataload/sources/*", "plugins/*", "src/plugins/*"]
  repos : List RepoSpec := []

/-- The enabled repositories with their globs filled in from the defaults. -/
def Registry.resolvedRepos (registry : Registry) : List RepoSpec :=
  (registry.repos.filter RepoSpec.enabled).map fun repo =>
    { repo with
      manifestGlobs := if repo.manifestGlobs = [] then registry.manifestGlobs
        else repo.manifestGlobs
      advancedGlobs := if repo.advancedGlobs = [] then registry.advancedGlobs
        else repo.advancedGlobs }

structure Settings where
  cacheDir : PyPath := [".cache", "repos"]
  /-- Shallow-clone depth; 0 is a full clone. -/
  gitCloneDepth : Nat := 1
  /-- Per-source check timeout. -/
  checkTimeout : Seconds := ⟨60000000, "60.0"⟩
  /-- Size of the thread pool that runs plugin checks. -/
  maxCheckWorkers : Nat := 8
  /-- Default check cadence, in microseconds. -/
  schedulerInterval : Int := 86400000000
  adminToken : Option String := some "changeme"

end BiothingsPulse

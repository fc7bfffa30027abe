import BiothingsPulse.Store.Base

/-! # Descriptors of discovered plugins -/

namespace BiothingsPulse

/-- An absolute path, resolved, as its components from the root. -/
abbrev PyPath : Type := List String

instance (path : PyPath) (paths : List PyPath) : Decidable (path ∈ paths) := inferInstance

/-- A discovered data plugin, before any code is loaded. -/
structure PluginRef where
  repo : String
  name : String
  pluginType : PluginType
  path : PyPath
  manifestPath : Option PyPath := none
  repoPath : Option PyPath := none
  sourceUrl : Option String := none
  extraSysPath : List PyPath := []
  deriving DecidableEq, Repr

namespace PluginRef

/-- The catalog key `f"{repo}/{name}"`. -/
def key (ref : PluginRef) : String := ref.repo ++ "/" ++ ref.name

/-- The primary key of the plugin's state record. -/
def source (ref : PluginRef) : SourceKey := ⟨ref.repo, ref.name⟩

end PluginRef

end BiothingsPulse

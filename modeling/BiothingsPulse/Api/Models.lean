import BiothingsPulse.Scheduling
import BiothingsPulse.Store.Documents

/-! # Response schemas of the API -/

namespace BiothingsPulse

/-- The core per-source status payload. -/
structure SourceStatus where
  repo : String
  plugin : String
  pluginType : PluginType
  sourceUrl : Option String := none
  currentVersion : Option String
  currentVersionAt : Option Time
  lastVersion : Option String
  lastVersionAt : Option Time
  downloadUrls : List String
  status : Status
  error : Option String
  schedule : Option String
  checkedAt : Option Time
  nextCheckAt : Option Time := none
  updatedAt : Option Time

/-- The payload of a record whose fields validate. -/
def SourceStatus.fromState (state : SourceState String) : SourceStatus :=
  { repo := state.repo
    plugin := state.plugin
    pluginType := state.pluginType
    currentVersion := state.currentVersion
    currentVersionAt := state.currentVersionAt
    lastVersion := state.lastVersion
    lastVersionAt := state.lastVersionAt
    downloadUrls := state.downloadUrls
    status := state.status
    error := state.error
    schedule := state.schedule
    checkedAt := state.checkedAt
    updatedAt := some state.updatedAt }

structure CatalogItem where
  repo : String
  plugin : String
  pluginType : PluginType
  sourceUrl : Option String := none

/-- What the API answers with. -/
inductive Body where
  | health (version : String) (catalogSize : Nat) (adminEnabled : Bool)
  | sources (count : Nat) (sources : List SourceStatus)
  | catalog (count : Nat) (sources : List CatalogItem)
  | source (status : SourceStatus)
  | message (message : String) (count : Option Nat)
  | detail (text : String)
  /-- The body of an answer that the framework makes by itself. -/
  | framework

structure Response where
  statusCode : Nat
  headers : List (String × String) := []
  body : Body

end BiothingsPulse

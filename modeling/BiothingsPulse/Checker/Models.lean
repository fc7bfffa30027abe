import BiothingsPulse.Store.Base

/-! # Result of a single data-source check -/

namespace BiothingsPulse

/-- Outcome of running the check step for one plugin. The schedule is whatever
the plugin declares, uncoerced. -/
structure CheckResult where
  status : Status
  latestVersion : Option String := none
  downloadUrls : List String := []
  error : Option String := none
  schedule : Option PyValue := none

end BiothingsPulse

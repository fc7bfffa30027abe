import BiothingsPulse.Checker.Models

/-!
# Running the check step of one plugin

`check_plugin` loads a plugin's dumper in a scratch directory and drives it
through release detection. A dumper is its plugin's code: an arbitrary state and
arbitrary methods on it, each of which may raise. Methods keep the state they
reached when they raise.
-/

namespace BiothingsPulse

variable {σ : Type}

/-- An instantiated dumper, as far as a check touches it. -/
structure Dumper (σ : Type) where
  state : σ
  /-- `getattr(type(dumper), "SCHEDULE", None)`. -/
  schedule : Option PyValue
  createTodumpList : σ → Except PyExc Unit × σ
  /-- The fallback `set_release`, when it is callable. -/
  setRelease : Option (σ → Except PyExc (Option PyValue) × σ)
  /-- `getattr(dumper, "release", None)`. -/
  release : σ → Except PyExc (Option PyValue)
  assignRelease : Option PyValue → σ → σ
  /-- The queue `to_dump`: for each entry its `"remote"` value, if it has one. -/
  toDump : σ → Except PyExc (List (Except PyExc (Option (Option PyValue))))
  /-- `release_client`, when it is callable and the client is open. -/
  releaseClient : σ → Option (Except PyExc Unit × σ)

/-- What release detection found: the stringified release and remotes. -/
structure Detection where
  latestVersion : Option String
  downloadUrls : List String

/-- The result of a detection that raised nothing. -/
def Detection.result (detection : Detection) (schedule : Option PyValue) : CheckResult :=
  if detection.latestVersion.isNone ∧ detection.downloadUrls = [] then
    { status := .unsupported
      error := some "no remote version detected (manual/derived source?)"
      schedule := schedule }
  else
    { status := .ok
      latestVersion := detection.latestVersion
      downloadUrls := detection.downloadUrls
      schedule := schedule }

namespace Dumper

variable (dumper : Dumper σ)

/-- Some dumpers set the release outside `create_todump_list`. -/
def ensureRelease (state : σ) : Except PyExc Unit × σ :=
  match dumper.release state with
  | .error exc => (.error exc, state)
  | .ok (some _) => (.ok (), state)
  | .ok none =>
      match dumper.setRelease with
      | none => (.ok (), state)
      | some setRelease =>
          let (returned, state) := setRelease state
          let attempt : Except PyExc Unit × σ :=
            match returned with
            | .error exc => (.error exc, state)
            | .ok value =>
                match dumper.release state with
                | .error exc => (.error exc, state)
                | .ok (some _) => (.ok (), state)
                | .ok none =>
                    match PyValue.truthy value with
                    | .error exc => (.error exc, state)
                    | .ok true => (.ok (), dumper.assignRelease value state)
                    | .ok false => (.ok (), state)
          match attempt with
          | (.ok _, state) => (.ok (), state)
          -- Both `except NotImplementedError` and `except Exception` go on.
          | (.error exc, state) => if exc.isException then (.ok (), state) else (.error exc, state)

/-- The stringified remotes of the queue, in queue order. -/
def remotes : List (Except PyExc (Option (Option PyValue))) → Except PyExc (List String)
  | [] => .ok []
  | .error exc :: _ => .error exc
  | .ok none :: rest => remotes rest
  | .ok (some remote) :: rest => do
      let url ← PyValue.toStr remote
      let urls ← remotes rest
      return url :: urls

/-- The release and the queue as read after detection. -/
def read (state : σ) : Except PyExc Detection := do
  let latest ← dumper.release state
  let urls ← remotes (← dumper.toDump state)
  match latest with
  | none => return { latestVersion := none, downloadUrls := urls }
  | some value => return {
      latestVersion := some (← PyValue.toStr (some value))
      downloadUrls := urls }

/-- The body of the `try` block: drive the dumper and read the result. -/
def detect : Except PyExc Detection × σ :=
  match dumper.createTodumpList dumper.state with
  | (.error exc, state) => (.error exc, state)
  | (.ok _, state) =>
      match dumper.ensureRelease state with
      | (.error exc, state) => (.error exc, state)
      | (.ok _, state) => (dumper.read state, state)

/-- What the handlers make of an exception raised by release detection. -/
def handle (schedule : Option PyValue) (exc : PyExc) : Except PyExc CheckResult :=
  if exc.kind = .notImplemented then
    .ok {
      status := .unsupported
      error := some "dumper does not implement release detection (manual/derived source)"
      schedule := schedule }
  else if exc.isException then
    .ok { status := .error, error := some exc.describe, schedule := schedule }
  else .error exc

/-- The result of the handlers, unless leaving the `finally` block raises. -/
def closeWith (outcome : Except PyExc CheckResult) (state : σ) : Except PyExc CheckResult × σ :=
  match dumper.releaseClient state with
  | some (.error exc, state) => if exc.isException then (outcome, state) else (.error exc, state)
  | some (.ok _, state) => (outcome, state)
  | none => (outcome, state)

end Dumper

/-- Drive an already-instantiated dumper through release detection. -/
def runDumperCheck (dumper : Dumper σ) : Except PyExc CheckResult × σ :=
  match PyValue.orNone dumper.schedule with
  | .error exc => (.error exc, dumper.state)
  | .ok schedule =>
      match dumper.detect with
      | (.ok detection, state) => dumper.closeWith (.ok (detection.result schedule)) state
      | (.error exc, state) => dumper.closeWith (Dumper.handle schedule exc) state

/-- What one run of `check_plugin` meets: creating the scratch directory, loading
the dumper in it, and removing the directory. -/
structure PluginCheck (σ : Type) where
  scratch : Except PyExc Unit
  load : Except PyExc (Dumper σ)
  cleanup : Except PyExc Unit

/-- The body of the `with` block: a failed load becomes a result unless it is no
`Exception`. -/
def PluginCheck.loadAndRun (check : PluginCheck σ) : Except PyExc CheckResult :=
  match check.load with
  | .ok dumper => (runDumperCheck dumper).1
  | .error exc =>
      match exc.kind with
      | .unsupportedPlugin => .ok { status := .unsupported, error := some exc.message }
      | .loaderError => .ok { status := .error, error := some exc.message }
      | .baseOnly => .error exc
      | _ => .ok { status := .error, error := some ("loader crashed: " ++ exc.describe) }

/-- Load and check a plugin in an isolated scratch directory. -/
def checkPlugin (check : PluginCheck σ) : Except PyExc CheckResult :=
  match check.scratch with
  | .error exc => .error exc
  | .ok _ =>
      match check.cleanup with
      | .error exc => .error exc
      | .ok _ => check.loadAndRun

end BiothingsPulse

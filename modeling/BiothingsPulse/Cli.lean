import BiothingsPulse.Api.Turns

/-!
# The command line

A command builds a service of its own over the store that is configured. It syncs and
discovers, and then lists what it has found or has one source checked.
-/

namespace BiothingsPulse.Cli

open Foundation Foundation.Threads

variable {codec : StateCodec}

inductive Command where
  | sync
  | list
  | check (repo plugin : String)
  deriving DecidableEq

/-- What a command writes to its standard output. -/
inductive Printed where
  | line (text : String)
  /-- The record as JSON. -/
  | state (state : SourceState PyValue)

structure Outcome where
  out : List Printed
  err : List String := []
  exitCode : Nat := 0

/-- `f"{ref.plugin_type:9s} {ref.key}"`. -/
def listing (ref : PluginRef) : String :=
  let text := ref.pluginType.text
  text ++ String.ofList (List.replicate (9 - text.length) ' ') ++ " " ++ ref.key

def discovered (count : Nat) : Outcome :=
  { out := [.line ("Discovered " ++ toString count ++ " plugins across configured repos.")] }

def listed (refs : List PluginRef) : Outcome := { out := refs.map fun ref => .line (listing ref) }

def answered (repo plugin : String) : Option (SourceState PyValue) → Outcome
  | none => { out := [], err := ["Unknown source: " ++ repo ++ "/" ++ plugin], exitCode := 1 }
  | some state => { out := [.state state] }

def buildService (settings : Settings) (store : DocStore codec) : PulseService codec :=
  { settings := settings, store := store }

section Commands

variable (world : World) (service : PulseService codec)

def cmdSync : Except PyExc Outcome × PulseService codec :=
  match service.syncAndDiscover world with
  | (.error exc, service) => (.error exc, service)
  | (.ok count, service) => (.ok (discovered count), service)

def cmdList : Except PyExc Outcome × PulseService codec :=
  match service.syncAndDiscover world with
  | (.error exc, service) => (.error exc, service)
  | (.ok _, service) => (.ok (listed service.listCatalog), service)

def cmdCheck (repo plugin : String) : Except PyExc Outcome × PulseService codec :=
  match service.syncAndDiscover world with
  | (.error exc, service) => (.error exc, service)
  | (.ok _, service) =>
      match service.checkSource world repo plugin with
      | (.error exc, service) => (.error exc, service)
      | (.ok state, service) => (.ok (answered repo plugin state), service)

def main : Command → Except PyExc Outcome × PulseService codec
  | .sync => cmdSync world service
  | .list => cmdList world service
  | .check repo plugin => cmdCheck world service repo plugin

end Commands

section Program

/-- The program of the process that runs a command. -/
def program (world : World) : Command → Threaded codec (Except PyExc Outcome)
  | .sync => (Threaded.syncAndDiscover world).andThen fun count => .done (.ok (discovered count))
  | .list => (Threaded.syncAndDiscover world).andThen fun _ =>
      Threaded.listCatalog.map fun refs => .ok (listed refs)
  | .check repo plugin => (Threaded.syncAndDiscover world).andThen fun _ =>
      (Threaded.checkSource world repo plugin).andThen fun state =>
        .done (.ok (answered repo plugin state))

variable {now : Time} (world : World)

/-- Run alone, the steps of a command come to the command done in one go. -/
theorem program_does (command : Command) :
    Threaded.Does codec now (program world command) (main (world.at now) · command) := by
  have synced := @Threaded.syncAndDiscover_does codec now world
  cases command with
  | sync =>
      have does : Threaded.Does codec now _ _ := synced.andThen fun count =>
        .done (.ok (discovered count) : Except PyExc Outcome)
      refine does.congr fun service => ?_
      rw [main, cmdSync]
      rcases service.syncAndDiscover (world.at now) with ⟨_ | _, _⟩ <;> rfl
  | list =>
      have does : Threaded.Does codec now _ _ := synced.andThen fun _ =>
        Threaded.listCatalog_does.map fun refs => (.ok (listed refs) : Except PyExc Outcome)
      refine does.congr fun service => ?_
      rw [main, cmdList]
      rcases service.syncAndDiscover (world.at now) with ⟨_ | _, _⟩ <;> rfl
  | check repo plugin =>
      have does : Threaded.Does codec now _ _ := synced.andThen fun _ =>
        (Threaded.checkSource_does world repo plugin).andThen fun state =>
          .done (.ok (answered repo plugin state) : Except PyExc Outcome)
      refine does.congr fun service => ?_
      rw [main, cmdCheck]
      rcases service.syncAndDiscover (world.at now) with ⟨_ | _, after⟩
      · rfl
      · dsimp only
        rcases after.checkSource (world.at now) repo plugin with ⟨_ | _, _⟩ <;> rfl

/-- What the writing steps of a thread keep, a command keeps. -/
theorem program_preserves {holds : Site codec → Prop} {world : World}
    (kept : Threaded.Kept holds world) (command : Command) :
    Program.Preserves holds (program world command) := by
  have synced := Threaded.syncAndDiscover_preserves kept
  cases command with
  | sync => exact synced.andThen fun _ => .done _
  | list => exact synced.andThen fun _ => .map _ (.read _)
  | check repo plugin =>
      exact synced.andThen fun _ =>
        (Threaded.checkSource_preserves kept repo plugin).andThen fun _ => .done _

end Program

end BiothingsPulse.Cli

import BiothingsPulse.Python.Values

/-!
# Schedule helpers

A source follows its own cron schedule when it has a valid one, otherwise the
default interval. Cron expressions are parsed by `croniter`, a parameter here.
-/

namespace BiothingsPulse

/-- The cron parser: a validity test, and the next matching time strictly after a
given one, which it may fail to find. -/
structure Croniter where
  isValid : String → Bool
  getNext : String → Time → Except PyExc Time
  later : ∀ schedule base next, getNext schedule base = .ok next → base < next

namespace Croniter

variable (croniter : Croniter)

def isValidCron (schedule : Option String) : Bool :=
  match schedule with
  | none => false
  | some text => text ≠ "" && croniter.isValid text

/-- When the next check is due: the next cron time after the last check, or the
last check plus the default interval. -/
def nextCheckAt (schedule : Option String) (lastChecked : Option Time) (defaultInterval : Int)
    (now : Time) : Except PyExc Time :=
  let base := lastChecked.getD now
  match schedule with
  | some text =>
      if croniter.isValidCron (some text) then croniter.getNext text base
      else .ok (base + defaultInterval)
  | none => .ok (base + defaultInterval)

/-- Whether a source should be checked now; a never-checked one always is. -/
def isDue (schedule : Option String) (lastChecked : Option Time) (defaultInterval : Int)
    (now : Time) : Except PyExc Bool :=
  match lastChecked with
  | none => .ok true
  | some last => (croniter.nextCheckAt schedule (some last) defaultInterval now).map fun next =>
      next ≤ now

/-- Whether the schedule passes the validity test and yet has no date after the base. -/
def dateless (schedule : Option String) (base : Time) : Bool :=
  match schedule with
  | none => false
  | some text => croniter.isValidCron (some text) && !(croniter.getNext text base).isOk

/-- The next check of a checked source is undefined only on a dateless schedule. -/
theorem nextCheckAt_isOk (schedule : Option String) (last : Time) (defaultInterval : Int)
    (now : Time) :
    (croniter.nextCheckAt schedule (some last) defaultInterval now).isOk =
      !croniter.dateless schedule last := by
  unfold nextCheckAt dateless
  cases schedule with
  | none => rfl
  | some text =>
      cases valid : croniter.isValidCron (some text) with
      | false => simp [valid, Except.isOk, Except.toBool]
      | true => simp [valid]

end Croniter

end BiothingsPulse

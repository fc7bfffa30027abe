import BiothingsPulse.Python.Values

/-!
# The version control system

The remote of a repository at one moment, and the operations on a checkout that the
sync uses, as a parameter with the behaviour the sync relies on. Fetching follows
the branches that the checkout's configuration names and never makes a
remote-tracking name of a tag.
-/

namespace BiothingsPulse

/-- The refs of a remote repository at one moment. -/
structure Remote (Commit : Type) where
  branches : String → Option Commit
  tags : String → Option Commit := fun _ => none
  defaultBranch : String

/-- The commit that a ref denotes: of no ref the default branch, of a name the branch
or else the tag. -/
def Remote.denotes {Commit : Type} (remote : Remote Commit) : Option String → Option Commit
  | none => remote.branches remote.defaultBranch
  | some name => (remote.branches name).or (remote.tags name)

structure Git (Commit : Type) where
  Checkout : Type
  cloneFrom : Remote Commit → Option String → Nat → Except PyExc Checkout
  fetch : Remote Commit → Nat → Checkout → Except PyExc Unit × Checkout
  resetHard : String → Checkout → Except PyExc Unit × Checkout
  submodule : List String → Checkout → Except PyExc Unit × Checkout
  /-- The name of the target of `origin/HEAD`, when it can be read. -/
  originHead : Checkout → Option String
  /-- The name of the checked-out local branch, when there is one. -/
  activeBranch : Checkout → Option String
  /-- The commit of the work tree. -/
  workTree : Checkout → Commit
  /-- Whether fetching updates the remote-tracking name of a branch. -/
  follows : Checkout → String → Prop
  /-- The commit of the remote-tracking name `origin/<name>`. -/
  tracking : Checkout → String → Option Commit
  clone_default : ∀ remote depth commit, remote.branches remote.defaultBranch = some commit →
    ∃ checkout, cloneFrom remote none depth = .ok checkout ∧ workTree checkout = commit ∧
      originHead checkout = some ("origin/" ++ remote.defaultBranch) ∧
      follows checkout remote.defaultBranch
  clone_branch : ∀ remote name depth commit, remote.branches name = some commit →
    ∃ checkout, cloneFrom remote (some name) depth = .ok checkout ∧
      workTree checkout = commit ∧ follows checkout name
  clone_tag : ∀ remote name depth commit, remote.branches name = none →
    remote.tags name = some commit →
      ∃ checkout, cloneFrom remote (some name) depth = .ok checkout ∧ workTree checkout = commit
  clone_full : ∀ remote ref checkout, cloneFrom remote ref 0 = .ok checkout →
    ∀ name, follows checkout name
  fetch_follows : ∀ remote depth checkout name commit, follows checkout name →
    remote.branches name = some commit → (fetch remote depth checkout).1 = .ok () ∧
      tracking (fetch remote depth checkout).2 name = some commit
  fetch_keeps : ∀ remote depth checkout,
    originHead (fetch remote depth checkout).2 = originHead checkout ∧
      ∀ name, follows checkout name → follows (fetch remote depth checkout).2 name
  reset_tracking : ∀ checkout name commit, tracking checkout name = some commit →
    (resetHard ("origin/" ++ name) checkout).1 = .ok () ∧
      workTree (resetHard ("origin/" ++ name) checkout).2 = commit
  reset_keeps : ∀ checkout revision,
    originHead (resetHard revision checkout).2 = originHead checkout ∧
      ∀ name, follows checkout name → follows (resetHard revision checkout).2 name
  submodule_keeps : ∀ arguments checkout,
    workTree (submodule arguments checkout).2 = workTree checkout ∧
      originHead (submodule arguments checkout).2 = originHead checkout ∧
      ∀ name, follows checkout name → follows (submodule arguments checkout).2 name

/-- A checkout as far as its refs go. A shallow clone follows the one branch it was
made for, if it was made for a branch. -/
structure PlainCheckout (Commit : Type) where
  followsAll : Bool
  followed : Option String
  tracking : String → Option Commit
  originHead : Option String
  activeBranch : Option String
  workTree : Commit

namespace PlainCheckout

variable {Commit : Type}

def follows (checkout : PlainCheckout Commit) (name : String) : Bool :=
  checkout.followsAll || checkout.followed = some name

/-- The checkout a clone makes for a branch, or with a detached head. -/
def cloned (remote : Remote Commit) (branch : Option String) (depth : Nat) (commit : Commit) :
    PlainCheckout Commit where
  followsAll := depth = 0
  followed := branch
  tracking name := if depth = 0 ∨ branch = some name then remote.branches name else none
  originHead :=
    if depth = 0 ∨ branch = some remote.defaultBranch then some ("origin/" ++ remote.defaultBranch)
    else none
  activeBranch := branch
  workTree := commit

def cloneFrom (remote : Remote Commit) (ref : Option String) (depth : Nat) :
    Except PyExc (PlainCheckout Commit) :=
  let missing (name : String) : PyExc :=
    ⟨.ordinary, "GitCommandError",
      "fatal: Remote branch " ++ name ++ " not found in upstream origin"⟩
  let name := ref.getD remote.defaultBranch
  match remote.branches name with
  | some commit => .ok (cloned remote (some name) depth commit)
  | none =>
      match ref.bind remote.tags with
      | some commit => .ok (cloned remote none depth commit)
      | none => .error (missing name)

def fetch (remote : Remote Commit) (checkout : PlainCheckout Commit) :
    Except PyExc Unit × PlainCheckout Commit :=
  let gone := checkout.followed.any fun name => (remote.branches name).isNone
  if !checkout.followsAll && gone then
    (.error ⟨.ordinary, "GitCommandError", "fatal: couldn't find remote ref"⟩, checkout)
  else
    (.ok (), { checkout with
      tracking := fun name =>
        if checkout.follows name then (remote.branches name).or (checkout.tracking name)
        else checkout.tracking name })

def resetHard (revision : String) (checkout : PlainCheckout Commit) :
    Except PyExc Unit × PlainCheckout Commit :=
  match if revision.toList.take 7 = "origin/".toList then
      checkout.tracking (String.ofList (revision.toList.drop 7)) else none with
  | some commit => (.ok (), { checkout with workTree := commit })
  | none => (.error ⟨.ordinary, "GitCommandError",
      "fatal: ambiguous argument '" ++ revision ++ "': unknown revision"⟩, checkout)

end PlainCheckout

/-- Plain checkouts behave as the sync relies on. -/
def plainGit (Commit : Type) : Git Commit where
  Checkout := PlainCheckout Commit
  cloneFrom := PlainCheckout.cloneFrom
  fetch remote _ checkout := checkout.fetch remote
  resetHard := PlainCheckout.resetHard
  submodule _ checkout := (.ok (), checkout)
  originHead := PlainCheckout.originHead
  activeBranch := PlainCheckout.activeBranch
  workTree := PlainCheckout.workTree
  follows checkout name := checkout.follows name = true
  tracking := PlainCheckout.tracking
  clone_default remote depth commit found := by
    refine ⟨PlainCheckout.cloned remote (some remote.defaultBranch) depth commit, ?_, rfl, ?_, ?_⟩
    · simp [PlainCheckout.cloneFrom, found]
    · simp [PlainCheckout.cloned]
    · simp [PlainCheckout.cloned, PlainCheckout.follows]
  clone_branch remote name depth commit found := by
    refine ⟨PlainCheckout.cloned remote (some name) depth commit, ?_, rfl, ?_⟩
    · simp [PlainCheckout.cloneFrom, found]
    · simp [PlainCheckout.cloned, PlainCheckout.follows]
  clone_tag remote name depth commit absent found := by
    refine ⟨PlainCheckout.cloned remote none depth commit, ?_, rfl⟩
    simp [PlainCheckout.cloneFrom, absent, found]
  clone_full remote ref checkout cloned name := by
    unfold PlainCheckout.cloneFrom at cloned
    dsimp only at cloned
    split at cloned
    · obtain rfl := Except.ok.inj cloned
      simp [PlainCheckout.cloned, PlainCheckout.follows]
    · split at cloned
      · obtain rfl := Except.ok.inj cloned
        simp [PlainCheckout.cloned, PlainCheckout.follows]
      · cases cloned
  fetch_follows remote depth checkout name commit follows found := by
    have there : (!checkout.followsAll && checkout.followed.any fun name =>
        (remote.branches name).isNone) = false := by
      cases all : checkout.followsAll with
      | true => rfl
      | false =>
          have only : checkout.followed = some name := by
            simpa [PlainCheckout.follows, all] using follows
          simp [only, found]
    unfold PlainCheckout.fetch
    simp [there, follows, found]
  fetch_keeps remote depth checkout := by
    unfold PlainCheckout.fetch
    dsimp only
    split <;> exact ⟨rfl, fun _ follows => follows⟩
  reset_tracking checkout name commit tracked := by
    have resolved : String.ofList (("origin/" ++ name).toList.drop 7) = name := by
      rw [String.toList_append]
      exact String.ofList_toList
    have named : ("origin/" ++ name).toList.take 7 = "origin/".toList := by
      rw [String.toList_append]
      rfl
    unfold PlainCheckout.resetHard
    rw [if_pos named, resolved, tracked]
    exact ⟨rfl, rfl⟩
  reset_keeps checkout revision := by
    unfold PlainCheckout.resetHard
    split <;> exact ⟨rfl, fun _ follows => follows⟩
  submodule_keeps _ _ := ⟨rfl, rfl, fun _ follows => follows⟩

end BiothingsPulse

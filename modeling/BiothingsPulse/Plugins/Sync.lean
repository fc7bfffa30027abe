import BiothingsPulse.Config
import BiothingsPulse.Plugins.Git

/-!
# Git-syncing a monitored repository

The first sync of a repository clones it, every later one fetches and resets the work
tree to `origin/<target>`. The target is the configured ref, or what is left of the
name of `origin/HEAD` after its last slash. So the two agree for a ref that is a
branch, and for no ref as long as the default branch stays the one of the clone and
has no slash in its name.
-/

namespace BiothingsPulse

variable {Commit : Type}

/-- The configured ref, if it is not empty. -/
def RepoSpec.wanted (spec : RepoSpec) : Option String := spec.ref.filter fun name => name ≠ ""

/-- `name.split("/")[-1]`. -/
def lastComponent (name : String) : String :=
  String.ofList (name.toList.reverse.takeWhile (· ≠ '/')).reverse

private theorem lastComponent_origin {branch : String} (plain : '/' ∉ branch.toList) :
    lastComponent ("origin/" ++ branch) = branch := by
  have kept : ∀ c ∈ branch.toList.reverse, decide (c ≠ '/') = true := by
    intro c member
    have inside := List.mem_reverse.mp member
    exact decide_eq_true fun slash => plain (slash ▸ inside)
  rw [lastComponent, String.toList_append, List.reverse_append,
    List.takeWhile_append_of_pos kept]
  change String.ofList (branch.toList.reverse ++ []).reverse = branch
  rw [List.append_nil, List.reverse_reverse, String.ofList_toList]

namespace Git

variable (git : Git Commit) (spec : RepoSpec) (depth : Nat)

/-- The name of the default branch, or a fallback. -/
def defaultBranch (checkout : git.Checkout) : String :=
  match git.originHead checkout with
  | some name => lastComponent name
  | none =>
      match git.activeBranch checkout with
      | some name => name
      | none => "master"

def submoduleArguments : List String :=
  ["update", "--init"] ++ if depth = 0 then [] else ["--depth", toString depth]

/-- Initialise the submodules per the spec. A failure is only logged. -/
def updateSubmodules (checkout : git.Checkout) : git.Checkout :=
  match spec.submodules with
  | .none | .under [] => checkout
  | .all => (git.submodule (submoduleArguments depth) checkout).2
  | .under paths => (git.submodule (submoduleArguments depth ++ "--" :: paths) checkout).2

/-- Clone the repository, or fetch and reset if there is a checkout already. -/
def syncRepo (remote : Remote Commit) (dest : Option git.Checkout) :
    Except PyExc Unit × Option git.Checkout :=
  match dest with
  | some checkout =>
      match git.fetch remote depth checkout with
      | (.error exc, checkout) => (.error exc, some checkout)
      | (.ok _, checkout) =>
          let target := spec.wanted.getD (git.defaultBranch checkout)
          match git.resetHard ("origin/" ++ target) checkout with
          | (.error exc, checkout) => (.error exc, some checkout)
          | (.ok _, checkout) => (.ok (), some (git.updateSubmodules spec depth checkout))
  | none =>
      match git.cloneFrom remote spec.wanted depth with
      | .error exc => (.error exc, none)
      | .ok checkout => (.ok (), some (git.updateSubmodules spec depth checkout))

/-- The commit in the work tree after a sync that succeeded. -/
def synced (result : Except PyExc Unit × Option git.Checkout) : Except PyExc (Option Commit) :=
  result.1.map fun _ => result.2.map git.workTree

/-- What each of a number of successive syncs ends with, each at its own moment of the
remote. -/
def syncAll (dest : Option git.Checkout) :
    List (Remote Commit) → List (Except PyExc (Option Commit))
  | [] => []
  | remote :: later =>
      let result := git.syncRepo spec depth remote dest
      git.synced result :: syncAll result.2 later

private theorem updateSubmodules_keeps (checkout : git.Checkout) :
    git.workTree (git.updateSubmodules spec depth checkout) = git.workTree checkout ∧
      git.originHead (git.updateSubmodules spec depth checkout) = git.originHead checkout ∧
      ∀ name, git.follows checkout name →
        git.follows (git.updateSubmodules spec depth checkout) name := by
  unfold updateSubmodules
  split
  · exact ⟨rfl, rfl, fun _ follows => follows⟩
  · exact ⟨rfl, rfl, fun _ follows => follows⟩
  · exact git.submodule_keeps _ _
  · exact git.submodule_keeps _ _

variable {git spec depth}

/-- A fresh clone checks out the commit that the ref denotes. -/
theorem syncRepo_clone {remote : Remote Commit} {commit : Commit}
    (denoted : remote.denotes spec.wanted = some commit) :
    git.synced (git.syncRepo spec depth remote none) = .ok (some commit) := by
  have cloned : ∃ checkout, git.cloneFrom remote spec.wanted depth = .ok checkout ∧
      git.workTree checkout = commit := by
    cases wanted : spec.wanted with
    | none =>
        rw [wanted] at denoted
        obtain ⟨checkout, made, tree, _⟩ := git.clone_default remote depth commit denoted
        exact ⟨checkout, made, tree⟩
    | some name =>
        rw [wanted] at denoted
        cases branch : remote.branches name with
        | some tip =>
            obtain ⟨checkout, made, tree, _⟩ := git.clone_branch remote name depth tip branch
            rw [Remote.denotes, branch, Option.some_or] at denoted
            exact ⟨checkout, made, tree.trans (Option.some.inj denoted)⟩
        | none =>
            rw [Remote.denotes, branch, Option.none_or] at denoted
            exact git.clone_tag remote name depth commit branch denoted
  obtain ⟨checkout, made, tree⟩ := cloned
  simp only [syncRepo, made, synced, Except.map, Option.map_some,
    (git.updateSubmodules_keeps spec depth checkout).1, tree]

/-- The branch an update resets to, and the checkout follows. -/
structure Targets (git : Git Commit) (spec : RepoSpec) (checkout : git.Checkout)
    (branch : String) : Prop where
  target : spec.wanted = some branch ∨
    spec.wanted = none ∧ git.originHead checkout = some ("origin/" ++ branch) ∧
      '/' ∉ branch.toList
  follows : git.follows checkout branch

variable (depth) in
/-- An update of a checkout resets it to the commit of the branch it targets, and
leaves it with the same target. -/
theorem syncRepo_update {remote : Remote Commit} {checkout : git.Checkout} {branch : String}
    {commit : Commit} (targets : Targets git spec checkout branch)
    (found : remote.branches branch = some commit) :
    ∃ updated, git.syncRepo spec depth remote (some checkout) = (.ok (), some updated) ∧
      git.workTree updated = commit ∧ Targets git spec updated branch := by
  obtain ⟨fetches, tracked⟩ := git.fetch_follows remote depth checkout branch commit
    targets.follows found
  obtain ⟨headKept, followsKept⟩ := git.fetch_keeps remote depth checkout
  rcases fetched : git.fetch remote depth checkout with ⟨outcome, current⟩
  rw [fetched] at fetches tracked headKept followsKept
  obtain rfl : outcome = .ok () := fetches
  have target : spec.wanted.getD (git.defaultBranch current) = branch := by
    rcases targets.target with wanted | ⟨none, head, plain⟩
    · rw [wanted, Option.getD_some]
    · rw [none, Option.getD_none, defaultBranch, headKept, head]
      exact lastComponent_origin plain
  obtain ⟨resets, tree⟩ := git.reset_tracking current branch commit tracked
  obtain ⟨headStays, followsStay⟩ := git.reset_keeps current ("origin/" ++ branch)
  rcases reset : git.resetHard ("origin/" ++ branch) current with ⟨outcome, final⟩
  rw [reset] at resets tree headStays followsStay
  obtain rfl : outcome = .ok () := resets
  obtain ⟨treeKept, headLast, followsLast⟩ := git.updateSubmodules_keeps spec depth final
  refine ⟨git.updateSubmodules spec depth final, ?_, treeKept.trans tree, ?_, ?_⟩
  · simp only [syncRepo, fetched, target, reset]
  · rcases targets.target with wanted | ⟨none, head, plain⟩
    · exact .inl wanted
    · exact .inr ⟨none, by rw [headLast, headStays, headKept, head], plain⟩
  · exact followsLast _ (followsStay _ (followsKept _ targets.follows))

end Git

/-- When an update of a checkout made at the first moment agrees with a fresh clone: a
configured ref is a branch, which the checkout follows; and without one, the default
branch is the one of the clone and its name has no slash. -/
def RepoSpec.Stable (spec : RepoSpec) (depth : Nat) (first remote : Remote Commit) : Prop :=
  match spec.wanted with
  | some name =>
      (remote.branches name).isSome ∧ ((first.branches name).isSome ∨ depth = 0)
  | none =>
      remote.defaultBranch = first.defaultBranch ∧ '/' ∉ first.defaultBranch.toList ∧
        (remote.branches remote.defaultBranch).isSome

namespace Git

variable {git : Git Commit} {spec : RepoSpec} {depth : Nat}

/-- The branch that updates of a clone made at the given moment should target. -/
def wantedBranch (spec : RepoSpec) (first : Remote Commit) : String :=
  spec.wanted.getD first.defaultBranch

/-- At a stable moment, the wanted branch has the commit that the ref denotes. -/
theorem branches_of_stable {first remote : Remote Commit}
    (stable : spec.Stable depth first remote) :
    ∃ commit, remote.branches (wantedBranch spec first) = some commit ∧
      remote.denotes spec.wanted = some commit := by
  unfold RepoSpec.Stable at stable
  unfold wantedBranch
  cases wanted : spec.wanted with
  | none =>
      simp only [wanted] at stable
      obtain ⟨same, _, exists_⟩ := stable
      obtain ⟨commit, found⟩ := Option.isSome_iff_exists.mp exists_
      exact ⟨commit, same ▸ found, found⟩
  | some name =>
      simp only [wanted] at stable
      obtain ⟨commit, found⟩ := Option.isSome_iff_exists.mp stable.1
      exact ⟨commit, found, by rw [Remote.denotes, found, Option.some_or]⟩

/-- A clone made for a stable ref targets the wanted branch. -/
theorem targets_of_cloned {first remote : Remote Commit}
    (accepted : (first.denotes spec.wanted).isSome) (stable : spec.Stable depth first remote)
    {checkout : git.Checkout} (cloned : git.cloneFrom first spec.wanted depth = .ok checkout) :
    Targets git spec checkout (wantedBranch spec first) := by
  unfold RepoSpec.Stable at stable
  unfold wantedBranch
  cases wanted : spec.wanted with
  | none =>
      rw [wanted] at accepted cloned
      simp only [wanted] at stable
      obtain ⟨commit, found⟩ := Option.isSome_iff_exists.mp accepted
      obtain ⟨made, same, _, head, follows⟩ := git.clone_default first depth commit found
      obtain rfl := Except.ok.inj (same.symm.trans cloned)
      exact ⟨.inr ⟨wanted, head, stable.2.1⟩, follows⟩
  | some name =>
      rw [wanted] at cloned
      simp only [wanted] at stable
      refine ⟨.inl wanted, ?_⟩
      rcases stable.2 with branch | rfl
      · obtain ⟨commit, found⟩ := Option.isSome_iff_exists.mp branch
        obtain ⟨made, same, _, follows⟩ := git.clone_branch first name depth commit found
        obtain rfl := Except.ok.inj (same.symm.trans cloned)
        exact follows
      · exact git.clone_full first (some name) checkout cloned name

private theorem Targets.updateSubmodules {checkout : git.Checkout} {branch : String}
    (targets : Targets git spec checkout branch) :
    Targets git spec (git.updateSubmodules spec depth checkout) branch := by
  obtain ⟨_, head, follows⟩ :
      _ ∧ git.originHead (git.updateSubmodules spec depth checkout) = _ ∧ _ :=
    git.updateSubmodules_keeps spec depth checkout
  refine ⟨?_, follows _ targets.follows⟩
  rcases targets.target with wanted | ⟨none, origin, plain⟩
  · exact .inl wanted
  · exact .inr ⟨none, head.trans origin, plain⟩

/-- Updates at stable moments end with the commits that the ref denotes. -/
theorem syncAll_update {first : Remote Commit} {checkout : git.Checkout}
    (targets : Targets git spec checkout (wantedBranch spec first)) (later : List (Remote Commit))
    (stable : ∀ remote ∈ later, spec.Stable depth first remote) :
    git.syncAll spec depth (some checkout) later =
      later.map fun remote => .ok (remote.denotes spec.wanted) := by
  induction later generalizing checkout with
  | nil => rfl
  | cons remote rest ih =>
      rw [List.forall_mem_cons] at stable
      obtain ⟨commit, found, denoted⟩ := branches_of_stable stable.1
      obtain ⟨updated, result, tree, next⟩ := syncRepo_update depth targets found
      rw [syncAll, result, List.map_cons, denoted, ih next stable.2]
      simp only [synced, Except.map, Option.map_some, tree]

end Git

/-- **Updating agrees with cloning at stable moments.** However the remote changes, as
long as each sync finds a stable ref, every sync succeeds and ends with the commit that
the ref denotes at that moment, as a fresh clone does. -/
theorem syncAll_agrees (git : Git Commit) (spec : RepoSpec) (depth : Nat) (first : Remote Commit)
    (accepted : (first.denotes spec.wanted).isSome) (later : List (Remote Commit))
    (stable : ∀ remote ∈ later, spec.Stable depth first remote) :
    git.syncAll spec depth none (first :: later) =
        (first :: later).map (fun remote => .ok (remote.denotes spec.wanted)) ∧
      ∀ remote ∈ first :: later, git.synced (git.syncRepo spec depth remote none) =
        .ok (remote.denotes spec.wanted) := by
  have fresh : ∀ remote ∈ first :: later, git.synced (git.syncRepo spec depth remote none) =
      .ok (remote.denotes spec.wanted) := by
    intro remote member
    obtain ⟨commit, denoted⟩ : ∃ commit, remote.denotes spec.wanted = some commit := by
      rcases List.mem_cons.mp member with rfl | inside
      · exact Option.isSome_iff_exists.mp accepted
      · obtain ⟨commit, _, denoted⟩ := Git.branches_of_stable (stable remote inside)
        exact ⟨commit, denoted⟩
    rw [denoted]
    exact Git.syncRepo_clone denoted
  refine ⟨?_, fresh⟩
  rw [Git.syncAll, fresh first List.mem_cons_self, List.map_cons]
  congr 1
  cases later with
  | nil => rfl
  | cons remote rest =>
      have cloned := fresh first List.mem_cons_self
      unfold Git.syncRepo at cloned ⊢
      cases made : git.cloneFrom first spec.wanted depth with
      | error exc => rw [made] at cloned; cases cloned
      | ok checkout =>
          have targets := Git.targets_of_cloned accepted (stable remote List.mem_cons_self) made
          exact Git.syncAll_update targets.updateSubmodules (remote :: rest) stable

section PlainRemotes

/-- A remote with a branch `main`, a branch and default branch `release/v2`, and a tag
`v1.0`, of which the two branches move. -/
private def movingRemote (main release : Nat) : Remote Nat where
  branches name :=
    if name = "main" then some main else if name = "release/v2" then some release else none
  tags name := if name = "v1.0" then some 1 else none
  defaultBranch := "release/v2"

private def hubSpec (ref : Option String) : RepoSpec :=
  { name := "hub", gitUrl := "https://github.com/biothings/hub", ref := ref }

/-- Updates follow a branch with a slash in its name. -/
theorem syncAll_agrees_release :
    (plainGit Nat).syncAll (hubSpec (some "release/v2")) 1 none
        [movingRemote 1 2, movingRemote 3 4] = [.ok (some 2), .ok (some 4)] :=
  (syncAll_agrees (plainGit Nat) (hubSpec (some "release/v2")) 1 (movingRemote 1 2) (by decide)
    [movingRemote 3 4] (List.forall_mem_singleton.mpr (And.intro rfl (Or.inl rfl)))).1

/-- **A tag cannot be updated, and neither can a default branch with a slash.** The first
sync succeeds and the second one fails, on a remote that has not changed. -/
theorem syncAll_tag_fails :
    (∃ exc, (plainGit Nat).syncAll (hubSpec (some "v1.0")) 1 none
        [movingRemote 1 2, movingRemote 1 2] = [.ok (some 1), .error exc]) ∧
      (∃ exc, (plainGit Nat).syncAll (hubSpec none) 1 none
        [movingRemote 1 2, movingRemote 1 2] = [.ok (some 2), .error exc]) ∧
      ¬ ∀ later : List (Remote Nat),
        (∀ remote ∈ later, (remote.denotes (some "v1.0")).isSome) →
          (plainGit Nat).syncAll (hubSpec (some "v1.0")) 1 none (movingRemote 1 2 :: later) =
            (movingRemote 1 2 :: later).map fun remote => .ok (remote.denotes (some "v1.0")) := by
  refine ⟨⟨_, rfl⟩, ⟨_, rfl⟩, ?_⟩
  intro agrees
  have second := congrArg (fun results => results.getLast?)
    (agrees [movingRemote 1 2] (List.forall_mem_singleton.mpr rfl))
  cases second

end PlainRemotes

end BiothingsPulse

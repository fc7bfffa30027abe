import BiothingsPulse.Plugins.Discovery
import BiothingsPulse.Python.Urls

/-!
# Links to sources

The spellings of the clone URL of a GitHub repository, and the link to a plugin's directory
that each of them gives. The suffix of the URL is dropped before its trailing slashes are.
-/

namespace BiothingsPulse

section Stages

/-- Drop a `git+` in front. -/
def dropGitPlus (u : List Char) : List Char := if "git+".toList.isPrefixOf u then u.drop 4 else u

/-- The URL of a remote `git@host:path`. -/
def webForm (u : List Char) : List Char :=
  if "git@".toList.isPrefixOf u ∧ ':' ∈ u then
    let rest := u.drop 4
    "https://".toList ++ rest.takeWhile (· ≠ ':') ++ '/' :: (rest.dropWhile (· ≠ ':')).tail
  else u

def dropGitSuffix (u : List Char) : List Char :=
  if ".git".toList.isSuffixOf u then u.take (u.length - 4) else u

/-- `u.rstrip("/")`. -/
def dropSlashes (u : List Char) : List Char := (u.reverse.dropWhile (· = '/')).reverse

/-- The web URL, stage by stage. -/
theorem gitWebUrl_eq (gitUrl : String) :
    gitWebUrl gitUrl =
      let u := dropSlashes (dropGitSuffix (webForm (dropGitPlus (pyStrip gitUrl.toList))))
      if u = [] then none else some (String.ofList u) := rfl

private theorem gitWebUrl_eq_some {gitUrl : String} {web : List Char}
    (finished : dropSlashes (dropGitSuffix (webForm (dropGitPlus (pyStrip gitUrl.toList)))) = web)
    (nonempty : web ≠ []) : gitWebUrl gitUrl = some (String.ofList web) := by
  rw [gitWebUrl_eq, finished]
  exact if_neg nonempty

variable {text : List Char}

private theorem dropGitSuffix_append (text : List Char) : dropGitSuffix
    (text ++ ".git".toList) = text := by
  rw [dropGitSuffix, if_pos (List.isSuffixOf_iff_suffix.mpr (List.suffix_append _ _)),
    List.length_append]
  exact List.take_left

private theorem dropGitSuffix_of_not_suffix (other : ¬ ".git".toList <:+ text) :
    dropGitSuffix text = text :=
  if_neg (mt List.isSuffixOf_iff_suffix.mp other)

/-- A URL that ends in a slash does not end in `.git`. -/
theorem not_suffix_slash (text : List Char) : ¬ ".git".toList <:+ text ++ ['/'] := by
  intro suffix
  obtain ⟨before, same⟩ := suffix
  have last := congrArg List.getLast? same
  rw [List.getLast?_append, List.getLast?_concat] at last
  cases last

/-- Slashes are dropped up to the last other character. -/
theorem dropSlashes_append {c : Char} (other : c ≠ '/') (before : List Char) (slashes : ℕ) :
    dropSlashes (before ++ [c] ++ List.replicate slashes '/') = before ++ [c] := by
  rw [dropSlashes, List.reverse_append, List.reverse_replicate, List.reverse_append,
    List.dropWhile_append_of_pos, List.reverse_singleton, List.singleton_append,
    List.dropWhile_cons_of_neg (by simpa using other), List.reverse_cons, List.reverse_reverse]
  intro d slash
  rw [List.eq_of_mem_replicate slash]
  rfl

private theorem solid_of_any (solid : text.any isPySpace = false) :
    ∀ c ∈ text, isPySpace c = false :=
  fun c inside => Bool.eq_false_iff.mpr (List.any_eq_false.mp solid c inside)

/-- Surrounding white space is stripped. -/
theorem pyStrip_surrounded {before after : List Char} (nonempty : text ≠ [])
    (solid : ∀ c ∈ text, isPySpace c = false) (blank : ∀ c ∈ before ++ after, isPySpace c = true) :
    pyStrip (before ++ text ++ after) = text := by
  have stripped {blanks part : List Char} (rest : List Char) (some_part : part ≠ [])
      (solid : ∀ c ∈ part, isPySpace c = false) (blank : ∀ c ∈ blanks, isPySpace c = true) :
      (blanks ++ (part ++ rest)).dropWhile isPySpace = part ++ rest := by
    rw [List.dropWhile_append_of_pos blank]
    cases part with
    | nil => exact absurd rfl some_part
    | cons c others =>
        rw [List.cons_append, List.dropWhile_cons_of_neg]
        rw [solid c List.mem_cons_self]
        decide
  rw [pyStrip, List.append_assoc, stripped after nonempty solid fun c inside =>
    blank c (List.mem_append_left _ inside), List.reverse_append]
  have reversed := stripped [] (List.reverse_eq_nil_iff.not.mpr nonempty)
    (fun c inside => solid c (List.mem_reverse.mp inside))
    (fun c inside => blank c (List.mem_append_right before (List.mem_reverse.mp inside)))
  rw [List.append_nil] at reversed
  rw [reversed, List.reverse_reverse]

end Stages

def gitHub : List Char := "https://github.com/".toList

/-- A name in the path of a remote. -/
def IsRemoteName (name : List Char) : Prop :=
  name ≠ [] ∧ ∀ c ∈ name, c ≠ '/' ∧ c ≠ ':' ∧ c ≠ '@' ∧ isPySpace c = false

/-- A way to write the clone URL of a GitHub repository. -/
structure GitHubRemote where
  owner : List Char
  repo : List Char
  /-- As `git@github.com:` rather than `https://github.com/`. -/
  scp : Bool
  gitPlus : Bool
  suffix : Bool
  slashes : ℕ
  before : List Char
  after : List Char
  owned : IsRemoteName owner
  called : IsRemoteName repo
  plain : ¬ ".git".toList <:+ repo
  blank : ∀ c ∈ before ++ after, isPySpace c = true

namespace GitHubRemote

variable (remote : GitHubRemote)

/-- The repository's page. -/
def page : List Char := gitHub ++ (remote.owner ++ '/' :: remote.repo)

/-- What follows the host in the URL. -/
def path : List Char :=
  remote.owner ++ '/' :: remote.repo ++ (if remote.suffix then ".git".toList else []) ++
    List.replicate remote.slashes '/'

def gitUrl : String :=
  String.ofList (remote.before ++
    ((if remote.gitPlus then "git+".toList else []) ++
      ((if remote.scp then "git@github.com:".toList else gitHub) ++
        remote.path)) ++ remote.after)

/-- The suffix stays if a slash follows it. -/
def keepsSuffix : Bool := remote.suffix && 0 < remote.slashes

private theorem solid_path : ∀ c ∈ remote.path, isPySpace c = false := by
  intro c inside
  simp only [path, List.mem_append, List.mem_cons] at inside
  obtain ((inside | rfl | inside) | inside) | inside := inside
  · exact (remote.owned.2 c inside).2.2.2
  · rfl
  · exact (remote.called.2 c inside).2.2.2
  · have plain : ∀ c ∈ ".git".toList, isPySpace c = false := solid_of_any rfl
    split at inside
    · exact plain c inside
    · cases inside
  · rw [List.eq_of_mem_replicate inside]
    rfl

private theorem webForm_eq (rest : List Char) :
    webForm (dropGitPlus ((if remote.gitPlus then "git+".toList else []) ++
      ((if remote.scp then "git@github.com:".toList else gitHub) ++ rest))) =
        gitHub ++ rest := by
  have scpForm : webForm ("git@github.com:".toList ++ rest) =
      gitHub ++ rest := by
    rw [webForm, if_pos ⟨rfl, List.mem_append_left _ (by decide)⟩]
    rfl
  have gitPlus (u : List Char) : dropGitPlus ("git+".toList ++ u) = u := rfl
  cases remote.gitPlus with
  | true =>
      rw [if_pos rfl, gitPlus]
      cases remote.scp with
      | true => exact scpForm
      | false => rfl
  | false =>
      cases remote.scp with
      | true => exact scpForm
      | false => rfl

/-- The page does not end in a slash. -/
theorem page_eq_concat : ∃ before c, remote.page = before ++ [c] ∧ c ≠ '/' := by
  obtain none | ⟨before, c, whole⟩ := List.eq_nil_or_concat' remote.repo
  · exact absurd none remote.called.1
  · refine ⟨gitHub ++ (remote.owner ++ '/' :: before), c, ?_, ?_⟩
    · simp [page, whole]
    · exact (remote.called.2 c (by rw [whole]; simp)).1

private theorem dropSlashes_page (slashes : ℕ) :
    dropSlashes (remote.page ++ List.replicate slashes '/') = remote.page := by
  obtain ⟨before, c, whole, other⟩ := remote.page_eq_concat
  rw [whole, dropSlashes_append other]

private theorem dropSlashes_self : dropSlashes remote.page = remote.page := by
  have none := remote.dropSlashes_page 0
  rwa [List.replicate_zero, List.append_nil] at none

private theorem not_suffix_page : ¬ ".git".toList <:+ remote.page := by
  intro suffix
  have named : '/' :: remote.repo <:+ remote.page :=
    ⟨gitHub ++ remote.owner, by rw [page, List.append_assoc]⟩
  obtain inside | outside := List.suffix_or_suffix_of_suffix suffix named
  · obtain same | inside := List.suffix_cons_iff.mp inside
    · cases (List.cons.inj same).1
    · exact remote.plain inside
  · exact absurd (outside.subset List.mem_cons_self) (by decide)

/-- The suffix and the slashes are dropped, but for a suffix with slashes behind it. -/
theorem dropSlashes_dropGitSuffix :
    dropSlashes (dropGitSuffix (gitHub ++ remote.path)) =
      remote.page ++ if remote.keepsSuffix then ".git".toList else [] := by
  have kept (text : List Char) (slashes : ℕ) :
      dropGitSuffix (text ++ List.replicate (slashes + 1) '/') =
        text ++ List.replicate (slashes + 1) '/' := by
    rw [List.replicate_succ', ← List.append_assoc]
    exact dropGitSuffix_of_not_suffix (not_suffix_slash _)
  have whole : gitHub ++ remote.path =
      remote.page ++ (if remote.suffix then ".git".toList else []) ++
        List.replicate remote.slashes '/' := by
    simp only [path, page, List.append_assoc]
  rw [whole, keepsSuffix]
  cases remote.suffix with
  | false =>
      rw [if_neg Bool.false_ne_true, List.append_nil, Bool.false_and,
        if_neg Bool.false_ne_true, List.append_nil]
      cases remote.slashes with
      | zero =>
          rw [List.replicate_zero, List.append_nil,
            dropGitSuffix_of_not_suffix remote.not_suffix_page, remote.dropSlashes_self]
      | succ slashes => rw [kept, remote.dropSlashes_page]
  | true =>
      rw [if_pos rfl, Bool.true_and]
      cases remote.slashes with
      | zero =>
          rw [List.replicate_zero, List.append_nil, dropGitSuffix_append, remote.dropSlashes_self]
          exact (List.append_nil _).symm
      | succ slashes =>
          rw [kept, if_pos (decide_eq_true (Nat.succ_pos _))]
          have ends : remote.page ++ ".git".toList = remote.page ++ ".gi".toList ++ ['t'] := by
            rw [List.append_assoc]
            rfl
          rw [ends, dropSlashes_append (by decide)]

private theorem gitWebUrl_gitUrl :
    gitWebUrl remote.gitUrl =
      some (String.ofList (remote.page ++ if remote.keepsSuffix then ".git".toList else [])) := by
  have stripped : pyStrip remote.gitUrl.toList =
      (if remote.gitPlus then "git+".toList else []) ++
        ((if remote.scp then "git@github.com:".toList else gitHub) ++
          remote.path) := by
    rw [gitUrl, String.toList_ofList]
    apply pyStrip_surrounded
    · cases remote.gitPlus <;> cases remote.scp <;> exact List.cons_ne_nil _ _
    · have plus : ∀ c ∈ "git+".toList, isPySpace c = false := solid_of_any rfl
      have scp : ∀ c ∈ "git@github.com:".toList, isPySpace c = false := solid_of_any rfl
      have https : ∀ c ∈ gitHub, isPySpace c = false := solid_of_any rfl
      intro c inside
      simp only [List.mem_append] at inside
      obtain inside | inside | inside := inside
      · split at inside
        · exact plus c inside
        · cases inside
      · split at inside
        · exact scp c inside
        · exact https c inside
      · exact remote.solid_path c inside
    · exact remote.blank
  apply gitWebUrl_eq_some
  · rw [stripped, webForm_eq, dropSlashes_dropGitSuffix]
  · exact List.append_ne_nil_of_left_ne_nil (List.cons_ne_nil _ _) _

end GitHubRemote

section Links

variable {checks : NetlocChecks}

/-- The host of a URL on GitHub. -/
theorem netloc_gitHub (checks : NetlocChecks) (rest : List Char) :
    ∃ split, urlsplit checks (gitHub ++ rest) = .ok split ∧
      split.netloc = "github.com".toList := by
  have clean : sanitized (gitHub ++ rest) =
      gitHub ++ rest.filter fun c => c ≠ '\t' && c ≠ '\r' && c ≠ '\n' := by
    have first : (gitHub ++ rest).dropWhile (fun c => c.toNat ≤ 32) = gitHub ++ rest := rfl
    rw [sanitized, first, List.filter_append]
    rfl
  generalize rest.filter (fun c => c ≠ '\t' && c ≠ '\r' && c ≠ '\n') = rest' at clean
  have schemed : splitScheme (gitHub ++ rest') =
      ("https".toList, "//github.com/".toList ++ rest') := by
    rw [splitScheme, if_pos]
    · rfl
    · exact ⟨List.mem_append_left _ (by decide), rfl⟩
  have located : splitNetloc ("//github.com/".toList ++ rest') =
      ("github.com".toList, '/' :: rest') := rfl
  have bracketless : checkBrackets checks "github.com".toList = .ok () := rfl
  have ascii : checkNetloc checks "github.com".toList = .ok () := rfl
  rw [urlsplit, clean, schemed]
  dsimp only
  rw [located]
  dsimp only
  rw [bracketless, ascii]
  exact ⟨_, rfl, rfl⟩

/-- The path from a checkout to a directory inside it. -/
def relativePath (inner : PyPath) : String := if inner = [] then "." else "/".intercalate inner

private theorem relativePath_ne_empty {inner : PyPath} (named : ∀ name ∈ inner, name ≠ "") :
    relativePath inner ≠ "" := by
  cases inner with
  | nil => decide
  | cons first rest =>
      have written := named first List.mem_cons_self
      rw [relativePath, if_neg (List.cons_ne_nil _ _), ne_eq, ← String.toList_inj,
        String.toList_intercalate]
      cases rest with
      | nil => simpa using written
      | cons next rest => simp

/-- What a checkout shows of a directory inside it: both paths resolve, and the names on the way
are not empty. -/
structure InCheckout (checkouts : Checkouts) (repoPath pluginDir inner : PyPath) : Prop where
  resolved : ∃ root, checkouts.resolve repoPath = .ok root ∧
    checkouts.resolve pluginDir = .ok (root ++ inner)
  named : ∀ name ∈ inner, name ≠ ""

/-- The host of a URL is the network location that it is split into. -/
def SplitsUrls (checkouts : Checkouts) (checks : NetlocChecks) : Prop :=
  ∀ url, checkouts.netloc url =
    (urlsplit checks url.toList).map fun split => String.ofList split.netloc

variable {checkouts : Checkouts} {repoPath pluginDir inner : PyPath}

/-- On GitHub the link goes to the directory at the configured ref. -/
theorem sourceUrl_gitHub (spec : RepoSpec) {rest : List Char}
    (splits : SplitsUrls checkouts checks) (inside : InCheckout checkouts repoPath pluginDir inner)
    (web : gitWebUrl spec.gitUrl = some (String.ofList (gitHub ++ rest))) :
    checkouts.sourceUrl spec repoPath pluginDir =
      .ok (some (String.ofList (gitHub ++ rest) ++ "/tree/" ++ spec.wanted.getD "HEAD" ++ "/" ++
        relativePath inner)) := by
  obtain ⟨root, repoResolved, dirResolved⟩ := inside.resolved
  have host : checkouts.netloc (String.ofList (gitHub ++ rest)) = .ok "github.com" := by
    obtain ⟨split, parsed, located⟩ := netloc_gitHub checks rest
    rw [splits, String.toList_ofList, parsed, Except.map, located]
    rfl
  have relative : (if root.isPrefixOf (root ++ inner) then
      if (root ++ inner).length = root.length then "."
      else "/".intercalate ((root ++ inner).drop root.length) else "") = relativePath inner := by
    rw [if_pos (List.isPrefixOf_iff_prefix.mpr (List.prefix_append _ _)), List.drop_left,
      List.length_append, relativePath]
    simp
  simp only [Checkouts.sourceUrl, web, repoResolved, dirResolved, host]
  change Except.ok (some (if "github.com" = "github.com" ∧ _ then _ else _)) = _
  rw [relative, if_pos ⟨rfl, relativePath_ne_empty inside.named⟩]

namespace GitHubRemote

variable (remote : GitHubRemote)

/-- The page of a directory of the repository at the ref, or else the default branch. -/
def link (ref : Option String) (inner : PyPath) : String :=
  String.ofList remote.page ++ "/tree/" ++ ref.getD "HEAD" ++ "/" ++ relativePath inner

/-- The page of the repository is a spelling of its own. -/
theorem gitWebUrl_page :
    gitWebUrl (String.ofList remote.page) = some (String.ofList remote.page) := by
  have plain := gitWebUrl_gitUrl { remote with
    scp := false, gitPlus := false, suffix := false, slashes := 0, before := [], after := []
    blank := fun _ inside => absurd inside List.not_mem_nil }
  simpa [gitUrl, path, page, keepsSuffix] using plain

/-- The spelling gives the link to the directory, and its web address is final. -/
def LinksTo (checkouts : Checkouts) (spec : RepoSpec) (repoPath pluginDir inner : PyPath) :
    Prop :=
  checkouts.sourceUrl { spec with gitUrl := remote.gitUrl } repoPath pluginDir =
      .ok (some (remote.link spec.wanted inner)) ∧
    (gitWebUrl remote.gitUrl).bind gitWebUrl = gitWebUrl remote.gitUrl

/-- **When a spelling gives the link.** It takes that no slash follows the suffix. -/
theorem linksTo_iff (checkouts : Checkouts) (checks : NetlocChecks) (spec : RepoSpec)
    (repoPath pluginDir inner : PyPath) (splits : SplitsUrls checkouts checks)
    (inside : InCheckout checkouts repoPath pluginDir inner) :
    remote.LinksTo checkouts spec repoPath pluginDir inner ↔
      ¬ (remote.suffix = true ∧ 0 < remote.slashes) := by
  have web := remote.gitWebUrl_gitUrl
  have condition : remote.keepsSuffix = true ↔ remote.suffix = true ∧ 0 < remote.slashes := by
    rw [keepsSuffix, Bool.and_eq_true, decide_eq_true_iff]
  rw [← condition]
  cases keeps : remote.keepsSuffix with
  | true =>
      rw [keeps, if_pos rfl] at web
      have linked := sourceUrl_gitHub { spec with gitUrl := remote.gitUrl } splits inside
        (by rw [web, page, List.append_assoc])
      refine ⟨?_, fun other => absurd rfl other⟩
      rintro ⟨same, -⟩
      rw [linked] at same
      have texts := congrArg String.toList (Option.some.inj (Except.ok.inj same))
      simp [link, page] at texts
  | false =>
      rw [keeps, if_neg Bool.false_ne_true, List.append_nil] at web
      refine ⟨fun _ => Bool.false_ne_true, fun _ => ⟨?_, ?_⟩⟩
      · exact sourceUrl_gitHub _ splits inside web
      · rw [web, Option.bind_some, remote.gitWebUrl_page]

/-- A file system where every path is resolved. -/
private def plainCheckouts (checks : NetlocChecks) : Checkouts where
  glob _ _ := .ok []
  isFile _ := .ok false
  isDir _ := .ok false
  present _ := .ok false
  readText _ := none
  resolve := .ok
  netloc url := (urlsplit checks url.toList).map fun split => String.ofList split.netloc
  plain := by
    intro _ _ paths globs path member
    obtain rfl := Except.ok.inj globs
    cases member

private def asciiChecks : NetlocChecks where
  bracketed _ := .ok ()
  normalize := id

/-- `https://github.com/o/r`, with or without a suffix and with some slashes. -/
private def written (suffix : Bool) (slashes : ℕ) : GitHubRemote where
  owner := ['o']
  repo := ['r']
  scp := false
  gitPlus := false
  suffix := suffix
  slashes := slashes
  before := []
  after := []
  owned := ⟨by decide, List.forall_mem_singleton.mpr (by decide)⟩
  called := ⟨by decide, List.forall_mem_singleton.mpr (by decide)⟩
  plain := by decide +kernel
  blank _ inside := absurd inside List.not_mem_nil

private theorem inside_plain : InCheckout (plainCheckouts asciiChecks) ["c"] ["c", "p"] ["p"] where
  resolved := ⟨["c"], rfl, rfl⟩
  named := by decide

private def anySpec : RepoSpec where
  name := "r"
  gitUrl := ""

/-- A remote with the suffix `.git` links to the page of its directory. -/
theorem linksTo_suffix :
    (written true 0).LinksTo (plainCheckouts asciiChecks) anySpec ["c"] ["c", "p"] ["p"] :=
  (linksTo_iff _ _ asciiChecks _ _ _ _ (fun _ => rfl) inside_plain).mpr (by decide)

/-- A slash behind the suffix keeps it in the link. -/
theorem linksTo_suffix_slash :
    ¬ (written true 1).LinksTo (plainCheckouts asciiChecks) anySpec ["c"] ["c", "p"] ["p"] := by
  rintro ⟨same, -⟩
  have web : gitWebUrl (written true 1).gitUrl =
      some (String.ofList (gitHub ++ "o/r.git".toList)) := by decide
  rw [sourceUrl_gitHub { anySpec with gitUrl := (written true 1).gitUrl } (fun _ => rfl)
    inside_plain web] at same
  exact absurd (Option.some.inj (Except.ok.inj same)) (by decide)

end GitHubRemote

end Links

end BiothingsPulse

import BiothingsPulse.Checker.Loader
import BiothingsPulse.Foundation.Splitting
import BiothingsPulse.Foundation.While
import Mathlib.Data.List.Induction

/-!
# Import roots

The upward walk from a source directory to the directory from which its package is imported,
and what the dotted name then denotes. The walk ends below the root of the file system only at
a directory that is no package, and the dotted name is split at every dot when it is imported.
A source directory is given as it is resolved.
-/

namespace BiothingsPulse

open Foundation Foundation.Splitting

namespace DottedName

private theorem parts_ne_nil (name : DottedName) : name.parts ≠ [] := by
  cases name with
  | top name => exact List.cons_ne_nil _ _
  | sub parent name => exact List.append_ne_nil_of_right_ne_nil _ (List.cons_ne_nil _ _)

private theorem toList_text (name : DottedName) :
    name.text.toList = ['.'].intercalate (name.parts.map String.toList) := by
  induction name with
  | top name => simp [text, parts]
  | sub parent name ih =>
      have nonempty : parent.parts.map String.toList ≠ [] :=
        mt List.map_eq_nil_iff.mp parent.parts_ne_nil
      simp [text, parts, ih, intercalate_concat nonempty]

private theorem ofText_eq_some {text : List Char} {name : DottedName}
    (named : ofText text = some name) : name.parts = (text.splitOn '.').map String.ofList := by
  rw [ofText] at named
  split at named
  · cases named
  · obtain rfl := Option.some.inj named
    exact parts_named text

/-- A name is written as it was given. -/
theorem text_of_ofText {text : List Char} {name : DottedName} (named : ofText text = some name) :
    name.text.toList = text := by
  rw [toList_text, ofText_eq_some named, List.map_map]
  have same : (text.splitOn '.').map (String.toList ∘ String.ofList) = text.splitOn '.' := by
    simp [Function.comp_def]
  rw [same, List.intercalate_splitOn]

end DottedName

section Walk

variable (tree : FileTree)

/-- The parent of the directory is a package. -/
def belowPackage (top : PyPath) : Bool := tree.exists (top.dropLast ++ ["__init__.py"])

/-- The walk ends, at the given directory; the parent of the root is the root. -/
def WalkEnds (sourceDir top : PyPath) : Prop :=
  While.Ends (belowPackage tree) List.dropLast sourceDir top

variable {tree}

private theorem packageTop_eq_some_iff {components top : List String} :
    packageTop tree components = some top ↔ WalkEnds tree components.reverse top.reverse := by
  induction components with
  | nil =>
      rw [packageTop]
      by_cases package : tree.exists ["__init__.py"] = true
      · rw [if_pos package]
        have endless : ¬ WalkEnds tree [] top.reverse := by
          apply While.not_ends (· = []) rfl
          · rintro _ rfl
            exact package
          · rintro _ rfl
            rfl
        exact ⟨nofun, fun ends => absurd ends endless⟩
      · rw [if_neg package]
        have stops : belowPackage tree [] = false := Bool.eq_false_iff.mpr package
        rw [List.reverse_nil, WalkEnds, While.ends_iff_of_stops stops, Option.some_inj,
          List.nil_eq, List.nil_eq, List.reverse_eq_nil_iff]
  | cons name parents ih =>
      have parent : (name :: parents).reverse.dropLast = parents.reverse := by
        rw [List.reverse_cons, List.dropLast_concat]
      rw [packageTop]
      by_cases package : tree.exists (parents.reverse ++ ["__init__.py"]) = true
      · have goes : belowPackage tree (name :: parents).reverse = true := by
          rw [belowPackage, parent, package]
        rw [if_pos package, ih, WalkEnds, WalkEnds, While.ends_iff_of_continues goes, parent]
      · have stops : belowPackage tree (name :: parents).reverse = false := by
          rw [belowPackage, parent, Bool.eq_false_iff]
          exact package
        rw [if_neg package, WalkEnds, While.ends_iff_of_stops stops, Option.some_inj,
          List.reverse_inj]

/-- The function returns when the walk ends, and then what it ends at decides. -/
theorem packageRootAndModule_eq_some_iff {sourceDir entry : PyPath} {dotted : Option DottedName} :
    packageRootAndModule tree sourceDir = some (entry, dotted) ↔
      ∃ top, WalkEnds tree sourceDir top ∧ entry = top.dropLast ∧
        dotted = DottedName.ofText (dottedText (sourceDir.drop entry.length)) := by
  rw [packageRootAndModule, Option.map_eq_some_iff]
  constructor
  · rintro ⟨top, found, same⟩
    obtain ⟨rfl, rfl⟩ := Prod.mk.inj same
    have ends := packageTop_eq_some_iff.mp found
    rw [List.reverse_reverse] at ends
    exact ⟨top.reverse, ends, List.dropLast_reverse.symm, by rw [List.length_reverse]⟩
  · rintro ⟨top, ends, rfl, rfl⟩
    refine ⟨top.reverse, packageTop_eq_some_iff.mpr ?_, ?_⟩
    · rwa [List.reverse_reverse, List.reverse_reverse]
    · rw [List.tail_reverse, List.reverse_reverse, List.length_reverse]

/-- A directory at or above the source directory and below the parent of another is that parent
or below the other itself. -/
theorem eq_or_prefix_of_dropLast {top dir sourceDir : PyPath} (above : top <+: sourceDir)
    (below : dir <+: sourceDir) (parent : top.dropLast <+: dir) :
    dir = top.dropLast ∨ top <+: dir := by
  obtain inside | outside := List.prefix_or_prefix_of_prefix above below
  · exact .inr inside
  · obtain rfl | ⟨init, last, rfl⟩ := List.eq_nil_or_concat' top
    · exact .inr List.nil_prefix
    · rw [List.dropLast_concat] at parent ⊢
      obtain rfl | short := List.prefix_concat_iff.mp outside
      · exact .inr (List.prefix_refl _)
      · exact .inl (short.eq_of_length_le parent.length_le)

/-- Everything from a directory down to the source directory, that one aside, is a package. -/
def PackagesFrom (tree : FileTree) (dir sourceDir : PyPath) : Prop :=
  ∀ between, dir <+: between → between <+: sourceDir → between ≠ sourceDir →
    tree.exists (between ++ ["__init__.py"]) = true

/-- What is packages from a directory on is so from what lies deeper than its parent. -/
theorem PackagesFrom.below {top middle sourceDir : PyPath} {name : String}
    (packages : PackagesFrom tree top sourceDir) (above : top <+: sourceDir) :
    PackagesFrom tree (top.dropLast ++ middle ++ [name]) sourceDir := by
  intro between deeper higher other
  have lower : top.dropLast <+: between := by
    refine List.IsPrefix.trans ?_ deeper
    rw [List.append_assoc]
    exact List.prefix_append _ _
  obtain rfl | deep := eq_or_prefix_of_dropLast above higher lower
  · have length := deeper.length_le
    simp only [List.length_append, List.length_singleton] at length
    omega
  · exact packages between deep higher other

/-- The walk keeps to packages, and where it ends the parent is none. -/
theorem WalkEnds.spec {sourceDir top : PyPath} (below : sourceDir ≠ [])
    (ends : WalkEnds tree sourceDir top) :
    top ≠ [] ∧ top <+: sourceDir ∧ PackagesFrom tree top sourceDir ∧
      tree.exists (top.dropLast ++ ["__init__.py"]) = false := by
  have walked : (top <+: sourceDir ∧ PackagesFrom tree top sourceDir) ∧
      belowPackage tree top = false := by
    apply While.Ends.invariant ends
    · refine ⟨List.prefix_refl _, ?_⟩
      intro between below above other
      exact absurd (above.eq_of_length_le below.length_le) other
    · intro dir package held
      obtain ⟨above, packages⟩ := held
      refine ⟨dir.dropLast_prefix.trans above, ?_⟩
      intro between parent inside other
      obtain rfl | deeper := eq_or_prefix_of_dropLast above inside parent
      · exact package
      · exact packages between deeper inside other
  obtain ⟨⟨above, packages⟩, stops⟩ := walked
  refine ⟨?_, above, packages, stops⟩
  -- At the root the walk goes on for ever, for the root is its own parent.
  rintro rfl
  rw [belowPackage, List.dropLast_nil, packages [] List.nil_prefix List.nil_prefix below.symm]
    at stops
  cases stops

/-- The walk ends below a directory that is no package. -/
theorem walk_ends {sourceDir dir : PyPath} (above : dir <+: sourceDir) (other : dir ≠ sourceDir)
    (plain : tree.exists (dir ++ ["__init__.py"]) = false) :
    ∃ top, WalkEnds tree sourceDir top := by
  induction sourceDir using List.reverseRecOn with
  | nil => exact absurd (List.prefix_nil.mp above) other
  | append_singleton parent name ih =>
      have above := (List.prefix_concat_iff.mp above).resolve_left other
      have dropped : (parent ++ [name]).dropLast = parent := List.dropLast_concat
      cases package : belowPackage tree (parent ++ [name]) with
      | false => exact ⟨_, (While.ends_iff_of_stops package).mpr rfl⟩
      | true =>
          have differs : dir ≠ parent := by
            rintro rfl
            rw [belowPackage, dropped, plain] at package
            cases package
          obtain ⟨top, ends⟩ := ih above differs
          refine ⟨top, (While.ends_iff_of_continues package).mpr ?_⟩
          rwa [dropped]

end Walk

section Root

variable (tree : FileTree) (sourceDir : PyPath)

/-- The package of the source directory is imported from this entry under this name: the name
leads from the entry back to the directory. -/
structure ImportRoot (entry : PyPath) (dotted : DottedName) : Prop where
  above : entry <+: sourceDir
  proper : entry ≠ sourceDir
  packages : ∀ dir, entry <+: dir → dir <+: sourceDir → dir ≠ entry → dir ≠ sourceDir →
    tree.exists (dir ++ ["__init__.py"]) = true
  outside : tree.exists (entry ++ ["__init__.py"]) = false
  decodes : entry ++ dotted.parts = sourceDir

/-- The function returns an import root. -/
def HasImportRoot : Prop :=
  ∃ entry dotted, packageRootAndModule tree sourceDir = some (entry, some dotted) ∧
    ImportRoot tree sourceDir entry dotted

variable {tree sourceDir} {entry : PyPath}

private theorem dottedText_ne_nil {parts : List String} (nonempty : parts ≠ [])
    (named : ∀ part ∈ parts, part ≠ "") : dottedText parts ≠ [] := by
  cases parts with
  | nil => exact absurd rfl nonempty
  | cons first rest =>
      have written : first.toList ≠ [] := mt String.toList_eq_nil_iff.mp
        (named first List.mem_cons_self)
      cases rest with
      | nil => simpa [dottedText] using written
      | cons next rest => simp [dottedText, written]

/-- A dotted name leads back to its components unless one holds a dot. -/
theorem parts_ofText_dottedText_iff {parts : List String} {dotted : DottedName}
    (nonempty : parts ≠ []) (named : DottedName.ofText (dottedText parts) = some dotted) :
    dotted.parts = parts ↔ ∀ part ∈ parts, '.' ∉ part.toList := by
  have written : parts.map String.toList ≠ [] := mt List.map_eq_nil_iff.mp nonempty
  have joined : dotted.parts.map String.toList = (dottedText parts).splitOn '.' := by
    rw [DottedName.ofText_eq_some named, List.map_map]
    simp [Function.comp_def]
  have injective : Function.Injective (List.map String.toList) :=
    List.map_injective_iff.mpr fun _ _ => String.toList_inj.mp
  rw [← injective.eq_iff, joined, dottedText, splitOn_intercalate_iff written, List.forall_mem_map]

/-- A component of the source directory below the entry of an import root is a part of the
dotted name. -/
theorem entry_prefix {parent : PyPath} {name : String} (above : entry <+: sourceDir)
    (proper : entry ≠ sourceDir) (outside : tree.exists (entry ++ ["__init__.py"]) = false)
    (inside : parent ++ [name] <+: sourceDir)
    (packages : PackagesFrom tree (parent ++ [name]) sourceDir) : entry <+: parent := by
  have higher : ¬ parent ++ [name] <+: entry := fun deeper => by
    rw [packages entry deeper above proper] at outside
    cases outside
  have lower := (List.prefix_or_prefix_of_prefix above inside).resolve_right higher
  obtain rfl | lower := List.prefix_concat_iff.mp lower
  · exact absurd (List.prefix_refl _) higher
  · exact lower

private theorem ImportRoot.free {dotted : DottedName}
    (root : ImportRoot tree sourceDir entry dotted)
    (named : DottedName.ofText (dottedText (sourceDir.drop entry.length)) = some dotted)
    {parent : PyPath} {name : String} (inside : parent ++ [name] <+: sourceDir)
    (packages : PackagesFrom tree (parent ++ [name]) sourceDir) : '.' ∉ name.toList := by
  obtain ⟨middle, rfl⟩ := entry_prefix root.above root.proper root.outside inside packages
  obtain ⟨rest, rfl⟩ := inside
  have parts : dotted.parts = middle ++ [name] ++ rest := by
    have whole := root.decodes
    rw [List.append_assoc, List.append_assoc] at whole
    rw [List.append_cancel_left whole, List.append_assoc]
  have below : (entry ++ middle ++ [name] ++ rest).drop entry.length =
      middle ++ [name] ++ rest := by
    rw [List.append_assoc, List.append_assoc, List.drop_left, List.append_assoc]
  rw [below] at named
  refine (parts_ofText_dottedText_iff ?_ named).mp parts name ?_
  · simp
  · simp

private theorem dropLast_ne_of_prefix {top : PyPath} (nonempty : top ≠ [])
    (above : top <+: sourceDir) : top.dropLast ≠ sourceDir := by
  intro same
  have short := above.length_le
  rw [← same, List.length_dropLast] at short
  have long := List.length_pos_iff.mpr nonempty
  omega

/-- Where the walk ends, the parent is an import root if no component below holds a dot. -/
theorem importRoot_of_walkEnds {top : PyPath} (below : sourceDir ≠ [])
    (named : ∀ name ∈ sourceDir, name ≠ "") (ends : WalkEnds tree sourceDir top)
    (free : ∀ parent name, parent ++ [name] <+: sourceDir →
      PackagesFrom tree (parent ++ [name]) sourceDir → '.' ∉ name.toList) :
    HasImportRoot tree sourceDir := by
  obtain ⟨nonempty, above, packages, plain⟩ := ends.spec below
  have parent : top.dropLast <+: sourceDir := top.dropLast_prefix.trans above
  have proper := dropLast_ne_of_prefix nonempty above
  obtain ⟨rest, whole⟩ := parent
  have dropped : sourceDir.drop top.dropLast.length = rest := by rw [← whole, List.drop_left]
  have some_rest : rest ≠ [] := by
    rintro rfl
    exact proper (by rw [← whole, List.append_nil])
  have written : dottedText rest ≠ [] := by
    apply dottedText_ne_nil some_rest
    intro part listed
    exact named part (by rw [← whole]; exact List.mem_append_right _ listed)
  obtain ⟨dotted, spelled⟩ : ∃ dotted, DottedName.ofText (dottedText rest) = some dotted := by
    rw [DottedName.ofText, if_neg written]
    exact ⟨_, rfl⟩
  refine ⟨top.dropLast, dotted, ?_, ?_⟩
  · exact packageRootAndModule_eq_some_iff.mpr ⟨top, ends, rfl, by rw [dropped, spelled]⟩
  · refine ⟨⟨rest, whole⟩, proper, ?_, plain, ?_⟩
    · intro dir lower inside differs other
      have deeper := (eq_or_prefix_of_dropLast above inside lower).resolve_left differs
      exact packages dir deeper inside other
    · rw [(parts_ofText_dottedText_iff some_rest spelled).mpr ?_, whole]
      intro part listed
      obtain ⟨middle, after, rfl⟩ := List.append_of_mem listed
      have inside : top.dropLast ++ middle ++ [part] <+: sourceDir :=
        ⟨after, by rw [← whole]; simp⟩
      exact free _ part inside (packages.below above)

variable (tree sourceDir) in
/-- **When the import root is well defined.** It takes a proper ancestor that is no package, so
that the walk ends, and no dot in the name of the source directory or of a package that it
reaches. -/
theorem hasImportRoot_iff (below : sourceDir ≠ []) (named : ∀ name ∈ sourceDir, name ≠ "") :
    HasImportRoot tree sourceDir ↔
      (∃ dir, dir <+: sourceDir ∧ dir ≠ sourceDir ∧
        tree.exists (dir ++ ["__init__.py"]) = false) ∧
      ∀ parent name, parent ++ [name] <+: sourceDir →
        PackagesFrom tree (parent ++ [name]) sourceDir → '.' ∉ name.toList := by
  constructor
  · rintro ⟨entry, dotted, located, root⟩
    refine ⟨⟨entry, root.above, root.proper, root.outside⟩, ?_⟩
    intro parent name inside packages
    obtain ⟨_, _, _, named⟩ := packageRootAndModule_eq_some_iff.mp located
    exact root.free named.symm inside packages
  · rintro ⟨⟨dir, above, other, plain⟩, free⟩
    obtain ⟨top, ends⟩ := walk_ends above other plain
    exact importRoot_of_walkEnds below named ends free

end Root

section Resolution

variable {tree : FileTree} {sourceDir entry : PyPath} {dotted : DottedName}

private theorem FileTree.search_package {dir : PyPath} {name : String}
    (package : tree.isFile (dir ++ [name, "__init__.py"]) = true) :
    tree.search [dir] name =
      some ⟨some (dir ++ [name, "__init__.py"]), some [dir ++ [name]]⟩ := by
  have found : tree.find dir name =
      .loadable ⟨some (dir ++ [name, "__init__.py"]), some [dir ++ [name]]⟩ := by
    rw [FileTree.find, if_pos package]
  rw [FileTree.search, List.findSome?_singleton, found]
  rfl

/-- A dotted name of packages is looked up component by component. -/
theorem FileTree.resolve_packages
    (packages : ∀ dir, entry <+: dir → dir <+: entry ++ dotted.parts → dir ≠ entry →
      tree.isFile (dir ++ ["__init__.py"]) = true) :
    tree.resolve [entry] dotted =
      some ⟨some (entry ++ dotted.parts ++ ["__init__.py"]), some [entry ++ dotted.parts]⟩ := by
  induction dotted with
  | top name =>
      have package : tree.isFile (entry ++ [name.val, "__init__.py"]) = true := by
        have last := packages (entry ++ [name.val]) (List.prefix_append _ _) (List.prefix_refl _)
          (by simp)
        rwa [List.append_assoc] at last
      rw [FileTree.resolve, FileTree.search_package package, DottedName.parts, List.append_assoc]
      rfl
  | sub parent name ih =>
      have package : tree.isFile (entry ++ parent.parts ++ [name.val, "__init__.py"]) = true := by
        have last := packages (entry ++ (parent.parts ++ [name.val])) (List.prefix_append _ _)
          (List.prefix_refl _) (by simp)
        rwa [← List.append_assoc, List.append_assoc] at last
      have higher := ih fun dir below above other => packages dir below
        (above.trans (by rw [DottedName.parts, ← List.append_assoc]; exact List.prefix_append _ _))
        other
      rw [FileTree.resolve, higher, Option.bind_some, Option.bind_some,
        FileTree.search_package package, DottedName.parts, ← List.append_assoc entry,
        List.append_assoc _ [name.val]]
      rfl

/-- Importing the dotted name from its entry gives the source package. -/
theorem ImportRoot.resolve (root : ImportRoot tree sourceDir entry dotted)
    (regular : ∀ dir, entry <+: dir → dir <+: sourceDir → dir ≠ entry →
      tree.isFile (dir ++ ["__init__.py"]) = true) :
    tree.resolve [entry] dotted =
      some ⟨some (sourceDir ++ ["__init__.py"]), some [sourceDir]⟩ := by
  have whole := root.decodes
  rw [← whole] at regular ⊢
  exact FileTree.resolve_packages regular

end Resolution

section Checkouts

/-- The given directories are packages. -/
private def packaged (dirs : List PyPath) : FileTree where
  isFile path := dirs.any fun dir => path = dir ++ ["__init__.py"]
  isDir path := path.getLast? != some "__init__.py"

/-- A directory of packages has an import root. -/
theorem hasImportRoot_mygene :
    HasImportRoot (packaged [["repos", "mygene"]]) ["repos", "mygene", "plugin"] := by
  have free : ∀ name ∈ ["repos", "mygene", "plugin"], '.' ∉ name.toList := by decide
  apply (hasImportRoot_iff _ _ (by decide) (by decide)).mpr
  refine ⟨⟨["repos"], by decide, by decide, by decide⟩, ?_⟩
  intro parent name inside _
  exact free name (inside.subset (List.mem_append_right _ List.mem_cons_self))

/-- A checkout that is a package and has a dot in its name is not what the name denotes. -/
theorem hasImportRoot_mygene_info :
    ¬ HasImportRoot (packaged [["repos", "mygene.info"]]) ["repos", "mygene.info", "plugin"] := by
  rintro ⟨entry, dotted, located, root⟩
  have found : packageRootAndModule (packaged [["repos", "mygene.info"]])
      ["repos", "mygene.info", "plugin"] =
        some (["repos"], some (.sub (.sub (.top ⟨"mygene", by decide⟩) ⟨"info", by decide⟩)
          ⟨"plugin", by decide⟩)) := by decide
  rw [found] at located
  obtain ⟨rfl, named⟩ := Prod.mk.inj (Option.some.inj located)
  obtain rfl := Option.some.inj named
  exact absurd root.decodes (by decide)

/-- Where the root is a package as well the walk does not end. -/
example : packageRootAndModule (packaged [["srv"], []]) ["srv", "plugin"] = none := by decide

end Checkouts

end BiothingsPulse

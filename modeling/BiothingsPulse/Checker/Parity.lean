import BiothingsPulse.Checker.Environment

/-!
# Loading in interpreters that are alike

Each part of a load computes the same in two interpreters that differ only in which
modules of the base environment they have cached, up to the purge at its end.
-/

namespace BiothingsPulse

open Foundation.Agreement

namespace Deployment.Alike

variable {deployment : Deployment} {root : PyPath} {path : List PyPath}

private theorem exec (file : PyPath) : Respects (deployment.Alike root path)
    (deployment.exec file) :=
  Alike.execFile deployment.limit file

/-- A file of the environment is executed in one step. -/
theorem atomic_exec : deployment.Atomic deployment.exec := deployment.atomic_execFile _

private theorem importModule (name : DottedName) :
    Respects (deployment.Alike root path) (deployment.importModule name) := by
  intro left right alike
  obtain ⟨result, left', right', ranLeft, ranRight, after⟩ :=
    (Alike.importName atomic_exec exec name).runs alike
  simp only [Runtime.importModule, ranLeft, ranRight]
  exact ⟨trivial, after.note name result⟩

private theorem runCode (code : Code) : Respects (deployment.Alike root path)
    (deployment.runCode code) :=
  Alike.run atomic_exec exec code

/-- A custom class is imported alike. -/
theorem importCustomClass (manifest : Manifest) :
    Respects (deployment.Alike root path) (deployment.importCustomClass manifest) := by
  unfold Runtime.importCustomClass
  cases manifest.customClass with
  | none => exact Respects.const _
  | some module => exact (importModule module).map _

private theorem releaseFunction (module : DottedName) (funcname : String)
    (imported : Except PyExc Origin) : Respects (deployment.Alike root path)
      (deployment.releaseFunction module funcname imported) := by
  intro left right alike
  cases imported with
  | error exc => exact ⟨rfl, alike⟩
  | ok origin =>
      simp only [Runtime.releaseFunction, alike.trace]
      split <;> exact ⟨rfl, alike⟩

/-- A release function is looked up alike. -/
theorem releaseAttempt (ref : PluginRef) (module : DottedName) (funcname : String) :
    Respects (deployment.Alike root path) (deployment.releaseAttempt ref module funcname) := by
  intro left right alike
  unfold Runtime.releaseAttempt
  by_cases present : deployment.tree.exists (ref.path ++ [module.text ++ ".py"])
  · obtain ⟨outcome, left', right', ranLeft, ranRight, after⟩ :=
      (exec (ref.path ++ [module.text ++ ".py"])).runs alike
    simp only [present, if_true, ranLeft, ranRight]
    exact releaseFunction module funcname _ left' right' after
  · obtain ⟨imported, left', right', ranLeft, ranRight, after⟩ := (importModule module).runs alike
    simp only [present, ranLeft, ranRight]
    exact releaseFunction module funcname imported left' right' after

private theorem instantiate (klass : DumperClass) :
    Respects (deployment.Alike root path) (deployment.instantiate klass) := by
  intro left right alike
  obtain ⟨outcome, left', right', ranLeft, ranRight, after⟩ := (runCode klass.init).runs alike
  simp only [Runtime.instantiate, ranLeft, ranRight]
  cases outcome with
  | ok done => exact ⟨rfl, after⟩
  | error exc =>
      simp only
      split <;> exact ⟨rfl, after⟩

private theorem dumperClassesIn {left right : Interp}
    (alike : deployment.Alike root path left right) (origin : Origin) (definedIn : String → Bool) :
    deployment.dumperClassesIn origin definedIn left =
      deployment.dumperClassesIn origin definedIn right := by
  rw [Runtime.dumperClassesIn, Runtime.dumperClassesIn, alike.trace]

private theorem loadDumperByFile {sourceDir : PyPath} (inside : root <+: sourceDir)
    (dotted : DottedName) (stems : List String) : Respects (deployment.Alike root path)
      (deployment.loadDumperByFile sourceDir (Runtime.modulePrefix dotted) stems) := by
  induction stems with
  | nil => exact Respects.const _
  | cons stem rest ih =>
      intro left right alike
      have foreign : deployment.Foreign
          (Runtime.fileModule (Runtime.modulePrefix dotted) stem).head :=
        deployment.reserved _ (Runtime.prefix_head_fileModule dotted stem)
      have within : (⟨some (sourceDir ++ [stem ++ ".py"]), none⟩ : Origin).Within [root] :=
        Origin.within_file ⟨root, by simp, inside.trans (List.prefix_append _ _)⟩
      have registered := alike.register _ foreign within
      obtain ⟨outcome, left', right', ranLeft, ranRight, after⟩ :=
        (exec (sourceDir ++ [stem ++ ".py"])).runs registered
      simp only [Runtime.loadDumperByFile, ranLeft, ranRight]
      cases outcome with
      | error exc =>
          simp only
          split
          · exact ih _ _ (after.pop _ foreign)
          · exact ⟨rfl, after⟩
      | ok done =>
          simp only [dumperClassesIn after]
          split
          · exact ih _ _ after
          · next klass _ => exact (instantiate klass).map _ _ _ after

private theorem submoduleClasses (dotted : DottedName) (definedIn : String → Bool)
    (names : List Component) : Respects (deployment.Alike root path)
      (deployment.submoduleClasses dotted definedIn names) := by
  induction names with
  | nil => exact Respects.const _
  | cons name rest ih =>
      intro left right alike
      obtain ⟨imported, left', right', ranLeft, ranRight, after⟩ :=
        (importModule (.sub dotted name)).runs alike
      simp only [Runtime.submoduleClasses, ranLeft, ranRight]
      cases imported with
      | error exc =>
          simp only
          split
          · exact ih _ _ after
          · exact ⟨rfl, after⟩
      | ok origin =>
          simp only [dumperClassesIn after]
          obtain ⟨others, left'', right'', ranLeft', ranRight', after'⟩ := ih.runs after
          simp only [ranLeft', ranRight']
          exact ⟨trivial, after'⟩

private theorem loadPackage (dotted : DottedName) :
    Respects (deployment.Alike root path) (deployment.loadPackage dotted) := by
  intro left right alike
  obtain ⟨imported, left', right', ranLeft, ranRight, after⟩ := (importModule dotted).runs alike
  simp only [Runtime.loadPackage, ranLeft, ranRight]
  cases imported with
  | error exc =>
      simp only
      split <;> exact ⟨rfl, after⟩
  | ok origin =>
      simp only [dumperClassesIn after]
      obtain ⟨others, left'', right'', ranLeft', ranRight', after'⟩ :=
        (submoduleClasses dotted (fun module => dotted.text.toList.isPrefixOf module.toList)
          Runtime.dumperSubmodules).runs after
      simp only [ranLeft', ranRight']
      cases others with
      | error exc => exact ⟨rfl, after'⟩
      | ok others =>
          simp only
          split
          · exact ⟨rfl, after'⟩
          · next klass _ => exact instantiate klass _ _ after'

/-- A dumper of a checkout is loaded alike. -/
theorem advancedAttempt {sourceDir : PyPath} (inside : root <+: sourceDir) (dotted : DottedName) :
    Respects (deployment.Alike root path) (deployment.advancedAttempt sourceDir dotted) := by
  intro left right alike
  obtain ⟨loaded, left', right', ranLeft, ranRight, after⟩ :=
    (loadDumperByFile inside dotted (deployment.candidates sourceDir)).runs alike
  simp only [Runtime.advancedAttempt, ranLeft, ranRight]
  rcases loaded with exc | _ | klass
  · exact ⟨rfl, after⟩
  · exact loadPackage dotted _ _ after
  · exact ⟨rfl, after⟩

end Deployment.Alike

end BiothingsPulse

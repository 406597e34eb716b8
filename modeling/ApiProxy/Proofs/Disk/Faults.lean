import ApiProxy.Proofs.Disk.Course

/-! A disk on which any step may fail. A fault refuses a step, or it breaks off the write of a file, which is left with
another text then. So what a step leaves on such a disk is what it makes of the tree, the tree as it was, or the tree
with another text in the file that was to be written. A disk without faults answers as its tree does. -/

namespace ApiProxy

variable {σ τ α β : Type}

/-! ### Disks that answer alike -/

/-- From related states the two come to the same answer, and to related states again. -/
def Alike (related : σ → τ → Prop) (step : StateM σ α) (twin : StateM τ α) : Prop :=
  ∀ state other, related state other →
    (step state).1 = (twin other).1 ∧ related (step state).2 (twin other).2

section Alike

variable {related : σ → τ → Prop} {step : StateM σ α} {twin : StateM τ α}

theorem alike_pure (value : α) : Alike related (pure value) (pure value) := fun _ _ h => ⟨rfl, h⟩

theorem Alike.bind {next : α → StateM σ β} {nextTwin : α → StateM τ β} (h : Alike related step twin)
    (hnext : ∀ value, Alike related (next value) (nextTwin value)) :
    Alike related (step >>= next) (twin >>= nextTwin) := by
  intro state other hrelated
  obtain ⟨hvalue, hrelated⟩ := h state other hrelated
  rw [stateM_bind_apply, stateM_bind_apply, hvalue]
  exact hnext _ _ _ hrelated

end Alike

namespace FileSystem

/-- The steps that replace a file are alike. -/
structure AlikeIn (related : σ → τ → Prop) (disk : FileSystem (StateM σ)) (twin : FileSystem (StateM τ)) : Prop where
  isDirectory : ∀ path, Alike related (disk.isDirectory path) (twin.isDirectory path)
  createDirectory : ∀ path, Alike related (disk.createDirectory path) (twin.createDirectory path)
  write : ∀ path content, Alike related (disk.write path content) (twin.write path content)
  rename : ∀ path newPath, Alike related (disk.rename path newPath) (twin.rename path newPath)

namespace AlikeIn

variable {related : σ → τ → Prop} {disk : FileSystem (StateM σ)} {twin : FileSystem (StateM τ)}

theorem ensureDirectory (h : AlikeIn related disk twin) (path : FilePath) :
    Alike related (disk.ensureDirectory path) (twin.ensureDirectory path) := by
  refine (h.createDirectory path).bind fun answer => ?_
  rcases answer with cause | _
  · cases cause with
    | alreadyExists => exact (h.isDirectory path).bind fun _ => by split <;> exact alike_pure _
    | _ => exact alike_pure _
  · exact alike_pure _

theorem ensureDirectories (h : AlikeIn related disk twin) (paths : List FilePath) :
    Alike related (disk.ensureDirectories paths) (twin.ensureDirectories paths) := by
  induction paths with
  | nil => exact alike_pure _
  | cons path outer ih =>
      refine (h.ensureDirectory path).bind fun answer => ?_
      rcases answer with cause | _
      · cases cause with
        | notFound =>
            refine ih.bind fun answer => ?_
            rcases answer with _ | _
            · exact alike_pure _
            · exact h.ensureDirectory path
        | _ => exact alike_pure _
      · exact alike_pure _

theorem ensureParent (h : AlikeIn related disk twin) (path : FilePath) :
    Alike related (disk.ensureParent path) (twin.ensureParent path) := by
  rw [FileSystem.ensureParent, FileSystem.ensureParent]
  cases path.parent? with
  | none => exact alike_pure _
  | some outer => exact (h.ensureDirectories outer.ancestors).bind fun _ => alike_pure _

theorem replace (h : AlikeIn related disk twin) (path : FilePath) (content : String) :
    Alike related (disk.replace path content) (twin.replace path content) := by
  refine (h.ensureParent path).bind fun answer => ?_
  rcases answer with _ | _
  · exact alike_pure _
  · refine (h.write path.temporary content).bind fun answer => ?_
    rcases answer with _ | _
    · exact alike_pure _
    · exact (h.rename path.temporary path).bind fun _ => alike_pure _

end AlikeIn

end FileSystem

/-! ### Disks with faults -/

/-- What goes wrong with a step that the tree may allow. Only the write of a file can break off. -/
inductive Fault where
  | refused (cause : SystemError)
  | brokenOff (cause : SystemError) (left : String)
deriving DecidableEq, Repr

def Fault.cause : Fault → SystemError
  | refused cause => cause
  | brokenOff cause _ => cause

/-- A tree, and what goes wrong with the steps to come. There is an entry for each of them; a step with none, or behind
the last entry, does what the tree allows. -/
structure Disk where
  tree : FileTree
  faults : List (Option Fault)
deriving DecidableEq, Repr

namespace Disk

/-- Takes a step on the tree, or does what its fault makes of it. -/
def attempt (step : StateM FileTree α) (failing : Fault → StateM FileTree α) : StateM Disk α := fun disk =>
  let result := disk.faults.head?.join.elim step failing disk.tree
  (result.1, ⟨result.2, disk.faults.tail⟩)

def refuse (fault : Fault) : StateM FileTree (Except SystemError α) := pure (.error fault.cause)

/-- A write that is broken off has opened the file, unless the tree does not allow it. -/
def failWrite (current : List String) (path : FilePath) : Fault → StateM FileTree (Except SystemError Unit)
  | .refused cause => pure (.error cause)
  | .brokenOff cause left => do
    match ← (FileTree.system current).write path left with
    | .ok () => pure (.error cause)
    | refusal => pure refusal

def system (current : List String) : FileSystem (StateM Disk) where
  read path := attempt ((FileTree.system current).read path) refuse
  isFile path := attempt ((FileTree.system current).isFile path) fun _ => pure false
  isDirectory path := attempt ((FileTree.system current).isDirectory path) fun _ => pure false
  createDirectory path := attempt ((FileTree.system current).createDirectory path) refuse
  write path content := attempt ((FileTree.system current).write path content) (failWrite current path)
  rename path newPath := attempt ((FileTree.system current).rename path newPath) refuse

/-- Nothing goes wrong on the disk that does not go wrong in its tree. -/
def IsSteady (disk : Disk) : Prop := ∀ fault ∈ disk.faults, fault = none

variable {disk after : Disk} {current : List String} {path newPath : FilePath} {content : String}
  {cause : SystemError}

theorem alike_attempt (step : StateM FileTree α) (failing : Fault → StateM FileTree α) :
    Alike (fun disk tree => disk.IsSteady ∧ disk.tree = tree) (attempt step failing) step := by
  rintro ⟨tree, faults⟩ _ ⟨hsteady, rfl⟩
  cases faults with
  | nil => exact ⟨rfl, hsteady, rfl⟩
  | cons fault faults =>
      obtain ⟨rfl, hrest⟩ := List.forall_mem_cons.mp hsteady
      exact ⟨rfl, hrest, rfl⟩

/-- A disk without faults replaces a file as its tree does. -/
theorem replace_of_isSteady (h : disk.IsSteady) (current : List String) (path : FilePath) (content : String) :
    (FileTree.system current).replace path content disk.tree =
      (((system current).replace path content disk).1, ((system current).replace path content disk).2.tree) := by
  have halike : FileSystem.AlikeIn (fun disk tree => disk.IsSteady ∧ disk.tree = tree) (system current)
      (FileTree.system current) := {
    isDirectory := fun _ => alike_attempt _ _
    createDirectory := fun _ => alike_attempt _ _
    write := fun _ _ => alike_attempt _ _
    rename := fun _ _ => alike_attempt _ _ }
  obtain ⟨hanswer, _, htree⟩ := halike.replace path content disk disk.tree ⟨h, rfl⟩
  exact Prod.ext hanswer.symm htree.symm

/-! ### What a step leaves -/

theorem attempt_cases {step : StateM FileTree α} {failing : Fault → StateM FileTree α} {answer : α}
    (h : attempt step failing disk = (answer, after)) :
    step disk.tree = (answer, after.tree) ∨ ∃ fault, failing fault disk.tree = (answer, after.tree) := by
  rw [attempt] at h
  cases hfault : disk.faults.head?.join with
  | none =>
      rw [hfault] at h
      cases h
      exact Or.inl rfl
  | some fault =>
      rw [hfault] at h
      cases h
      exact Or.inr ⟨fault, rfl⟩

theorem addsOn_createDirectory (current : List String) (path : FilePath) (disk : Disk) :
    disk.tree.AddsOn ((system current).createDirectory path disk).2.tree current [path] := by
  rcases h : (system current).createDirectory path disk with ⟨answer, after⟩
  rcases attempt_cases h with hstep | ⟨fault, hfailed⟩
  · have hadds := FileTree.addsOn_createDirectory disk.tree current path
    rwa [hstep] at hadds
  · have hkept : disk.tree = after.tree := congrArg Prod.snd hfailed
    rw [hkept]
    exact FileTree.Adds.refl _ _

theorem tree_isDirectory (current : List String) (path : FilePath) (disk : Disk) :
    ((system current).isDirectory path disk).2.tree = disk.tree := by
  rcases h : (system current).isDirectory path disk with ⟨answer, after⟩
  rcases attempt_cases h with hstep | ⟨fault, hfailed⟩
  · have hkept := FileTree.isDirectory_snd disk.tree current path
    rwa [hstep] at hkept
  · exact (congrArg Prod.snd hfailed).symm

/-- Only directories on the way are added, whatever goes wrong with some of them. -/
theorem addsOn_ensureDirectories {paths : List FilePath} {outcome : Except SystemError Unit}
    (h : (system current).ensureDirectories paths disk = (outcome, after)) :
    disk.tree.AddsOn after.tree current paths := by
  have hadds := FileTree.addsOn_ensureDirectories tree (addsOn_createDirectory current) (tree_isDirectory current)
    disk paths
  rwa [h] at hadds

/-- A write that is broken off fails: either its tree refuses it, or the file is left with another text. -/
theorem failWrite_cases {fault : Fault} {tree : FileTree} {answer : Except SystemError Unit}
    (h : failWrite current path fault disk.tree = (answer, tree)) :
    answer ≠ .ok () ∧ (tree = disk.tree ∨ ∃ left, disk.tree.write current path left = .ok tree) := by
  cases fault with
  | refused cause =>
      cases h
      exact ⟨nofun, Or.inl rfl⟩
  | brokenOff cause left =>
      rw [failWrite, stateM_bind_apply] at h
      rcases hwrite : (FileTree.system current).write path left disk.tree with ⟨refusal | _, opened⟩ <;>
        rw [hwrite] at h <;> cases h
      · exact ⟨nofun, Or.inl (FileTree.system_write_eq_error_iff.mp hwrite).2⟩
      · exact ⟨nofun, Or.inr ⟨left, FileTree.system_write_eq_ok_iff.mp hwrite⟩⟩

theorem write_of_ok (h : (system current).write path content disk = (.ok (), after)) :
    disk.tree.write current path content = .ok after.tree := by
  rcases attempt_cases h with hstep | ⟨fault, hfailed⟩
  · exact FileTree.system_write_eq_ok_iff.mp hstep
  · exact absurd rfl (failWrite_cases hfailed).1

theorem write_of_error (h : (system current).write path content disk = (.error cause, after)) :
    after.tree = disk.tree ∨ ∃ left, disk.tree.write current path left = .ok after.tree := by
  rcases attempt_cases h with hstep | ⟨fault, hfailed⟩
  · exact Or.inl (FileTree.system_write_eq_error_iff.mp hstep).2
  · exact (failWrite_cases hfailed).2

theorem rename_of_ok (h : (system current).rename path newPath disk = (.ok (), after)) :
    disk.tree.rename current path newPath = .ok after.tree := by
  rcases attempt_cases h with hstep | ⟨fault, hfailed⟩
  · exact FileTree.system_rename_eq_ok_iff.mp hstep
  · cases hfailed

theorem rename_of_error (h : (system current).rename path newPath disk = (.error cause, after)) :
    after.tree = disk.tree := by
  rcases attempt_cases h with hstep | ⟨fault, hfailed⟩
  · exact (FileTree.system_rename_eq_error_iff.mp hstep).2
  · exact (congrArg Prod.snd hfailed).symm

end Disk

end ApiProxy

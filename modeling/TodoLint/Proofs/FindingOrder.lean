import TodoLint.Check
import TodoLint.Proofs.Registry
import TodoLint.Proofs.Token.CommentOrder

/-!
The findings in a source. They are in strict order, and each stands at the `#` that starts a
comment.
-/

namespace TodoLint

theorem Registry.checkSource_eq_ok {r : Registry} {source : String} {tokens : List Token}
    (h : tokenize source = .ok tokens) : r.checkSource source = .ok (r.check tokens) := by
  simp [checkSource, h, Except.map, Except.mapError]

theorem Registry.checkSource_eq_error {r : Registry} {source : String} {fault : UnclosedString}
    (h : tokenize source = .error fault) :
    r.checkSource source = .error (.unclosedString fault) := by
  simp [checkSource, h, Except.map, Except.mapError]

/-- A finding that a configuration allows: its rule is not ignored, and it stands at the `#`
that starts a comment. -/
structure Finding.Permitted (f : Finding) (c : Config) (source : String) (tokens : List Token) :
    Prop where
  one_le_code : 1 ≤ f.code
  code_le : f.code ≤ 7
  code_notMem : f.code ∉ c.ignore
  at_comment : ∃ t ∈ tokens, t.kind = .comment ∧ t.start = f.place
  at_hash : HashAt ⟨1, 1⟩ source.toList f.place

theorem code_mem_builtin : ∀ rule ∈ Rule.builtin, 1 ≤ rule.code ∧ rule.code ≤ 7 := by
  decide

theorem permitted_of_mem_check {c : Config} {r : Registry} {source : String}
    {tokens : List Token} (hr : c.registry = .ok r) (h : tokenize source = .ok tokens)
    {f : Finding} (hf : f ∈ r.check tokens) : f.Permitted c source tokens := by
  obtain ⟨rule, hbuiltin, hignore, hcode, t, hsubject, hplace⟩ := Config.exists_rule hr hf
  obtain ⟨hmem, hkind⟩ := Rule.comment_of_mem_subjects hsubject
  constructor
  case one_le_code =>
    rw [hcode]
    exact (code_mem_builtin rule hbuiltin).1
  case code_le =>
    rw [hcode]
    exact (code_mem_builtin rule hbuiltin).2
  case code_notMem =>
    rwa [hcode]
  case at_comment =>
    exact ⟨t, hmem, hkind, hplace⟩
  case at_hash =>
    rw [← hplace]
    exact hashAt_of_tokenize h ((rule.subjects_sublist r.vocabulary tokens).mem hsubject)

/-- A source that has tokens has its findings in strict order of code, row and column, all of
them permitted. -/
theorem checkSource_ordered {c : Config} {r : Registry} {source : String}
    {tokens : List Token} (hr : c.registry = .ok r) (h : tokenize source = .ok tokens) :
    ∃ findings, r.checkSource source = .ok findings ∧
      findings.Pairwise Finding.Precedes ∧
      ∀ f ∈ findings, f.Permitted c source tokens := by
  refine ⟨r.check tokens, Registry.checkSource_eq_ok h, ?_, ?_⟩
  · exact Registry.pairwise_check (Config.isTextual_registry hr) (Config.pairwise_code hr)
      (pairwise_comments_of_tokenize h)
  · intro f hf
    exact permitted_of_mem_check hr h hf

/-- A comment of its own and one after code, without the fifth rule. -/
theorem ordered_fixme_todo :
    ∃ tokens findings, tokenize "# fixme\nx = 1 # todo\n" = .ok tokens ∧
      (Registry.default.without [5]).checkSource "# fixme\nx = 1 # todo\n" = .ok findings ∧
      findings.map (·.code) = [1, 3, 3, 4, 4, 6, 6, 7, 7] ∧
      findings.Pairwise Finding.Precedes ∧
      ∀ f ∈ findings, f.Permitted { ignore := [5] } "# fixme\nx = 1 # todo\n" tokens := by
  have hregistry : Config.registry { ignore := [5] } = .ok (Registry.default.without [5]) := rfl
  have hcodes : ((Registry.default.without [5]).checkSource
      "# fixme\nx = 1 # todo\n").toOption.map (·.map (·.code)) =
        some [1, 3, 3, 4, 4, 6, 6, 7, 7] := by
    decide +kernel
  cases h : tokenize "# fixme\nx = 1 # todo\n" with
  | error fault =>
      simp [Registry.checkSource, h, Except.map, Except.mapError, Except.toOption] at hcodes
  | ok tokens =>
      obtain ⟨findings, hfindings, hordered⟩ := checkSource_ordered hregistry h
      rw [hfindings] at hcodes
      exact ⟨tokens, findings, rfl, hfindings, Option.some.inj hcodes, hordered⟩

end TodoLint

import Mathlib.Data.List.Destutter
import TodoLint.Proofs.Registry
import TodoLint.Proofs.Token.Stream

/-!
What findings depend on: the comments, and where code separates them. The gist of a token list
keeps nothing else, and a check of the gist by rules that look at texts alone finds what a check of
the list finds (`Registry.check_gist`).
-/

namespace TodoLint

namespace Token

/-- Two tokens that are not code both. -/
def Apart (t u : Token) : Prop :=
  ¬ (t.kind = .other ∧ u.kind = .other)

instance : DecidableRel Apart :=
  fun _ _ => inferInstanceAs (Decidable (¬ _))

/-- The token without what no such rule looks at: of a comment it leaves out where it ends, and of
code it leaves that there is some. -/
def bare (t : Token) : Token :=
  match t.kind with
  | .other => ⟨.other, "", ⟨0, 0⟩, ⟨0, 0⟩⟩
  | _ => { t with stop := t.start }

@[simp] theorem kind_bare (t : Token) : t.bare.kind = t.kind := by
  unfold bare
  cases t.kind <;> rfl

theorem text_bare {t : Token} (h : t.kind = .comment) : t.bare.text = t.text := by
  simp [bare, h]

theorem start_bare {t : Token} (h : t.kind = .comment) : t.bare.start = t.start := by
  simp [bare, h]

end Token

/-- A token list without its line breaks, with one token for each run of code, and with the
tokens bare. -/
def gist (ts : List Token) : List Token :=
  ((ts.filter fun t => ¬ t.IsBreak).destutter Token.Apart).map Token.bare

/-- The group with its first comment bare. -/
def Group.bare (g : Group) : Group :=
  { g with start := g.start.bare }

/-! ### Line breaks -/

theorem filter_isComment_noBreaks (ts : List Token) :
    (ts.filter fun t => ¬ t.IsBreak).filter Token.isComment = ts.filter Token.isComment := by
  rw [List.filter_filter]
  congr 1
  funext t
  cases hkind : t.kind <;> simp [Token.isComment, Token.IsBreak, hkind]

theorem groupsFrom_noBreaks (tagged : String → Bool) (current : Option Group)
    (ts : List Token) :
    groupsFrom tagged current (ts.filter fun t => ¬ t.IsBreak) =
      groupsFrom tagged current ts := by
  induction ts generalizing current with
  | nil => rfl
  | cons t ts ih =>
      cases hkind : t.kind <;> simp [groupsFrom, Token.IsBreak, hkind, ← ih]

/-! ### Runs of code -/

theorem filter_isComment_destutter' (t : Token) (ts : List Token) :
    (List.destutter' Token.Apart t ts).filter Token.isComment =
      (t :: ts).filter Token.isComment := by
  induction ts generalizing t with
  | nil => rfl
  | cons u ts ih =>
      by_cases hapart : t.Apart u
      · rw [List.destutter'_cons_pos _ hapart, List.filter_cons, ih u, ← List.filter_cons]
      · obtain ⟨ht, hu⟩ := not_not.mp hapart
        rw [List.destutter'_cons_neg _ hapart, ih t]
        simp [Token.isComment, ht, hu]

theorem filter_isComment_destutter (ts : List Token) :
    (ts.destutter Token.Apart).filter Token.isComment = ts.filter Token.isComment := by
  cases ts with
  | nil => rfl
  | cons t ts => exact filter_isComment_destutter' t ts

theorem groupsFrom_code {tagged : String → Bool} (current : Option Group) {t : Token}
    (ts : List Token) (h : t.kind = .other) :
    groupsFrom tagged current (t :: ts) = current.toList ++ groupsFrom tagged none ts := by
  simp [groupsFrom, h]

theorem groupsFrom_destutter' (tagged : String → Bool) (current : Option Group) (t : Token)
    (ts : List Token) :
    groupsFrom tagged current (List.destutter' Token.Apart t ts) =
      groupsFrom tagged current (t :: ts) := by
  induction ts generalizing current t with
  | nil => rfl
  | cons u ts ih =>
      by_cases hapart : t.Apart u
      · rw [List.destutter'_cons_pos _ hapart]
        cases hkind : t.kind <;> simp only [groupsFrom, hkind, ih]
      · -- nothing is left open after the first piece of code for the second to close
        obtain ⟨ht, hu⟩ := not_not.mp hapart
        rw [List.destutter'_cons_neg _ hapart, ih current t, groupsFrom_code current ts ht,
          groupsFrom_code current (u :: ts) ht, groupsFrom_code none ts hu]
        rfl

theorem groupsFrom_destutter (tagged : String → Bool) (current : Option Group)
    (ts : List Token) :
    groupsFrom tagged current (ts.destutter Token.Apart) = groupsFrom tagged current ts := by
  cases ts with
  | nil => rfl
  | cons t ts => exact groupsFrom_destutter' tagged current t ts

/-! ### Bare tokens -/

theorem filter_isComment_map_bare (ts : List Token) :
    (ts.map Token.bare).filter Token.isComment = (ts.filter Token.isComment).map Token.bare := by
  rw [List.filter_map]
  congr 2
  funext t
  simp [Token.isComment]

theorem groupsFrom_map_bare (tagged : String → Bool) (current : Option Group)
    (ts : List Token) :
    groupsFrom tagged (current.map Group.bare) (ts.map Token.bare) =
      (groupsFrom tagged current ts).map Group.bare := by
  induction ts generalizing current with
  | nil => cases current <;> rfl
  | cons t ts ih =>
      cases hkind : t.kind with
      | newline | logicalNewline => simp [groupsFrom, hkind, ih]
      | other =>
          have hrest := ih none
          cases current <;> simpa [groupsFrom, hkind] using hrest
      | comment =>
          have hopening : (Group.opening t).bare = Group.opening t.bare := by
            simp [Group.opening, Group.bare, Token.text_bare hkind]
          cases htagged : tagged t.text with
          | true =>
              have hrest := ih (some (Group.opening t))
              rw [Option.map_some, hopening] at hrest
              cases current <;>
                simp [groupsFrom, hkind, htagged, Token.text_bare hkind, hrest]
          | false =>
              have hpush : (current.map Group.bare).map (·.push t.bare) =
                  (current.map (·.push t)).map Group.bare := by
                cases current <;> simp [Group.push, Group.bare, Token.text_bare hkind]
              rw [List.map_cons]
              simp only [groupsFrom, Token.kind_bare, hkind, Token.text_bare hkind, htagged, hpush,
                Bool.false_eq_true, if_false]
              exact ih _

/-! ### Checks -/

theorem filter_isComment_gist (ts : List Token) :
    (gist ts).filter Token.isComment = (ts.filter Token.isComment).map Token.bare := by
  rw [gist, filter_isComment_map_bare, filter_isComment_destutter, filter_isComment_noBreaks]

theorem groups_gist (tagged : String → Bool) (ts : List Token) :
    groups tagged (gist ts) = (groups tagged ts).map Group.bare := by
  have hbare := groupsFrom_map_bare tagged none
    ((ts.filter fun t => ¬ t.IsBreak).destutter Token.Apart)
  rwa [groupsFrom_destutter, groupsFrom_noBreaks] at hbare

theorem Finding.ofToken_bare {t : Token} (h : t.kind = .comment) (code : Nat) (text : String) :
    Finding.ofToken t.bare code text = Finding.ofToken t code text := by
  simp [Finding.ofToken, Token.start_bare h]

theorem Rule.evaluate_gist {rule : Rule} (hrule : rule.IsTextual) (v : Vocabulary)
    (ts : List Token) : rule.evaluate v (gist ts) = rule.evaluate v ts := by
  unfold IsTextual at hrule
  unfold evaluate
  cases hinspection : rule.inspection with
  | ofComment complaint =>
      rw [hinspection] at hrule
      simp only [filter_isComment_gist, List.filterMap_map]
      apply List.filterMap_congr
      intro t ht
      have hkind := kind_of_mem_comments ht
      rw [Function.comp_apply, hrule v t.bare t (Token.text_bare hkind)]
      congr 1
      funext text
      exact Finding.ofToken_bare hkind rule.code text
  | ofGroup complaint =>
      simp only [groups_gist, List.filterMap_map]
      apply List.filterMap_congr
      intro g hg
      have hstart : g.start ∈ (groups (fun text => (v.find? text).isSome) ts).map Group.start :=
        List.mem_map_of_mem hg
      rw [start_groups] at hstart
      have hkind := kind_of_mem_comments (List.mem_of_mem_filter hstart)
      simp only [Function.comp_apply, Group.bare]
      congr 1
      funext text
      exact Finding.ofToken_bare hkind rule.code text
  | ofTokens findings => simp [hinspection] at hrule

theorem Registry.check_gist {r : Registry} (hr : r.IsTextual) (ts : List Token) :
    r.check (gist ts) = r.check ts :=
  List.flatMap_congr fun rule hrule => Rule.evaluate_gist (hr rule hrule) r.vocabulary ts

theorem Registry.check_congr {r : Registry} (hr : r.IsTextual) {s t : List Token}
    (h : gist s = gist t) : r.check s = r.check t := by
  rw [← check_gist hr s, h, check_gist hr t]

/-- Token lists with the same gist have the same findings, whatever the configuration, and also
with other rules that look at texts alone. -/
theorem check_eq_of_gist_eq {r : Registry} (hr : (∃ c : Config, c.registry = .ok r) ∨ r.IsTextual)
    {s t : List Token} (h : gist s = gist t) : r.check s = r.check t := by
  rcases hr with ⟨c, hc⟩ | hr
  · exact Registry.check_congr (Config.isTextual_registry hc) h
  · exact Registry.check_congr hr h

/-- Code of other length at another place, a line break in it, and comments that end elsewhere. -/
theorem check_same_around_todo :
    let s := [⟨.other, "f", ⟨1, 1⟩, ⟨1, 2⟩⟩, ⟨.other, "(", ⟨1, 2⟩, ⟨1, 3⟩⟩,
      ⟨.newline, "\n", ⟨1, 3⟩, ⟨1, 4⟩⟩, ⟨.other, ")", ⟨2, 1⟩, ⟨2, 2⟩⟩,
      .comment 2 4 "# todo: a", ⟨.logicalNewline, "\n", ⟨2, 13⟩, ⟨2, 14⟩⟩, .comment 3 1 "# see #9"]
    let t := [⟨.other, "'x'", ⟨1, 9⟩, ⟨1, 12⟩⟩, ⟨.comment, "# todo: a", ⟨2, 4⟩, ⟨7, 7⟩⟩,
      ⟨.comment, "# see #9", ⟨3, 1⟩, ⟨3, 1⟩⟩]
    gist s = gist t ∧ Registry.default.check s = Registry.default.check t ∧
      Registry.default.check t = [⟨2, 4, 6, "write TODO instead of todo"⟩] := by
  intro s t
  have hgist : gist s = gist t := by decide
  have hregistry : Config.registry {} = .ok Registry.default := rfl
  exact ⟨hgist, check_eq_of_gist_eq (.inl ⟨{}, hregistry⟩) hgist, by decide +kernel⟩

end TodoLint

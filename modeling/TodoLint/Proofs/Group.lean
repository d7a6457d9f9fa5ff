import Mathlib.Data.List.Infix
import TodoLint.Proofs.Rule
import TodoLint.Proofs.Token.Stream
import TodoLint.Rule.Builtin

/-!
What the groups of a token list are, said of each tagged comment on its own: it has a group, with
the comments up to code or the next tagged comment (`groups_eq_map_openings`).
-/

namespace TodoLint

/-- A token that ends the group before it: code, or a tagged comment. -/
def Token.endsGroup (tagged : String → Bool) (t : Token) : Bool :=
  t.kind == .other || t.isComment && tagged t.text

/-- The comments that continue a group, of the tokens after its first comment. -/
def continuation (tagged : String → Bool) (later : List Token) : List Token :=
  (later.takeWhile fun t => !t.endsGroup tagged).filter Token.isComment

/-- The first token of a list, if it is a tagged comment, and the comments that continue it. -/
def opening? (tagged : String → Bool) : List Token → Option (Token × List Token)
  | [] => none
  | t :: later =>
      if t.isComment && tagged t.text then some (t, continuation tagged later) else none

/-- The tagged comments of a token list, each with the comments that continue it. -/
def openings (tagged : String → Bool) (ts : List Token) : List (Token × List Token) :=
  ts.tails.filterMap (opening? tagged)

/-- The group of a comment and the comments that continue it. -/
def Group.ofOpening (opening : Token × List Token) : Group :=
  ⟨opening.1, (opening.1 :: opening.2).map Token.text⟩

/-- The group with the comments that continue it. -/
def Group.extend (g : Group) (others : List Token) : Group :=
  { g with lines := g.lines ++ others.map Token.text }

section Tokens

variable {tagged : String → Bool} {t : Token} {ts : List Token}

theorem continuation_of_isBreak (h : t.IsBreak) :
    continuation tagged (t :: ts) = continuation tagged ts := by
  rcases h with h | h <;> simp [continuation, Token.endsGroup, Token.isComment, h]

theorem continuation_of_other (h : t.kind = .other) : continuation tagged (t :: ts) = [] := by
  simp [continuation, Token.endsGroup, h]

theorem continuation_of_tagged (h : t.kind = .comment) (htagged : tagged t.text = true) :
    continuation tagged (t :: ts) = [] := by
  simp [continuation, Token.endsGroup, Token.isComment, h, htagged]

theorem continuation_of_untagged (h : t.kind = .comment) (htagged : tagged t.text = false) :
    continuation tagged (t :: ts) = t :: continuation tagged ts := by
  simp [continuation, Token.endsGroup, Token.isComment, h, htagged]

theorem openings_of_tagged (h : t.kind = .comment) (htagged : tagged t.text = true) :
    openings tagged (t :: ts) = (t, continuation tagged ts) :: openings tagged ts := by
  simp [openings, opening?, Token.isComment, h, htagged]

theorem openings_of_not_tagged (h : t.kind = .comment → tagged t.text = false) :
    openings tagged (t :: ts) = openings tagged ts := by
  have hnone : opening? tagged (t :: ts) = none := by simpa [opening?, Token.isComment] using h
  simp [openings, hnone]

theorem groupsFrom_eq (tagged : String → Bool) (current : Option Group) (ts : List Token) :
    groupsFrom tagged current ts =
      (current.map (·.extend (continuation tagged ts))).toList ++
        (openings tagged ts).map Group.ofOpening := by
  -- The open group is any group: after a comment the induction needs it with a line more.
  induction ts generalizing current with
  | nil => cases current <;> simp [groupsFrom, openings, opening?, continuation, Group.extend]
  | cons t ts ih =>
      cases hkind : t.kind with
      | newline | logicalNewline =>
          have hbreak : t.IsBreak := by simp [Token.IsBreak, hkind]
          rw [continuation_of_isBreak hbreak, openings_of_not_tagged (by simp [hkind])]
          simpa [groupsFrom, hkind] using ih current
      | other =>
          rw [continuation_of_other hkind, openings_of_not_tagged (by simp [hkind])]
          cases current <;> simp [groupsFrom, hkind, ih, Group.extend]
      | comment =>
          cases htagged : tagged t.text with
          | true =>
              rw [continuation_of_tagged hkind htagged, openings_of_tagged hkind htagged]
              cases current <;>
                simp [groupsFrom, hkind, htagged, ih, Group.extend, Group.opening,
                  Group.ofOpening]
          | false =>
              rw [continuation_of_untagged hkind htagged,
                openings_of_not_tagged fun _ => htagged]
              cases current <;>
                simp [groupsFrom, hkind, htagged, ih, Group.extend, Group.push]

theorem groups_eq_map_openings (tagged : String → Bool) (ts : List Token) :
    groups tagged ts = (openings tagged ts).map Group.ofOpening :=
  groupsFrom_eq tagged none ts

theorem fst_openings (tagged : String → Bool) (ts : List Token) :
    (openings tagged ts).map Prod.fst = ts.filter fun t => t.isComment && tagged t.text := by
  have hstart : Group.start ∘ Group.ofOpening = Prod.fst := rfl
  rw [← hstart, ← List.map_map, ← groups_eq_map_openings, start_groups, List.filter_filter]
  simp only [Bool.and_comm]

theorem continuation_append_openings_sublist (tagged : String → Bool) (ts : List Token) :
    (continuation tagged ts ++ (openings tagged ts).flatMap fun o => o.1 :: o.2).Sublist
      (ts.filter Token.isComment) := by
  -- What continues a group opened before the tokens stands in front of the openings among them.
  induction ts with
  | nil => simp [continuation, openings, opening?]
  | cons t ts ih =>
      cases hkind : t.kind with
      | newline | logicalNewline =>
          have hbreak : t.IsBreak := by simp [Token.IsBreak, hkind]
          rw [continuation_of_isBreak hbreak, openings_of_not_tagged (by simp [hkind])]
          simpa [Token.isComment, hkind] using ih
      | other =>
          rw [continuation_of_other hkind, openings_of_not_tagged (by simp [hkind])]
          simpa [Token.isComment, hkind] using (List.sublist_append_right _ _).trans ih
      | comment =>
          have hcomment : t.isComment = true := by simp [Token.isComment, hkind]
          cases htagged : tagged t.text with
          | true =>
              rw [continuation_of_tagged hkind htagged, openings_of_tagged hkind htagged]
              simpa [hcomment] using ih
          | false =>
              rw [continuation_of_untagged hkind htagged,
                openings_of_not_tagged fun _ => htagged]
              simpa [hcomment] using ih

theorem openings_sublist (tagged : String → Bool) (ts : List Token) :
    ((openings tagged ts).flatMap fun o => o.1 :: o.2).Sublist (ts.filter Token.isComment) :=
  (List.sublist_append_right _ _).trans (continuation_append_openings_sublist tagged ts)

end Tokens

theorem Rule.evaluate_missedLink (v : Vocabulary) (ts : List Token) :
    missedLink.evaluate v ts =
      ((groups (fun text => (v.find? text).isSome) ts).filter fun g => !Link.occursIn g.text).map
        fun g => ⟨g.start.start.row, g.start.start.col, 3, "add link on issue into TODO"⟩ := by
  unfold evaluate missedLink
  simp only
  induction groups (fun text => (v.find? text).isSome) ts with
  | nil => rfl
  | cons g gs ih =>
      cases hlink : Link.occursIn g.text <;> simp [hlink, ih, Finding.ofToken]

/-- Each tagged comment has one group, in the order of the tokens. Its text has a line for the
comment and one for each of the untagged comments up to code or the next tagged comment, and no
comment is in two groups. The groups without a link are the ones that the rule on links reports,
where they start. -/
theorem groups_of_tagged_comments :
    (∀ (tagged : String → Bool) (ts : List Token),
      (groups tagged ts).map (fun g => (g.start, g.text)) =
        (openings tagged ts).map (fun o =>
          (o.1, String.intercalate "\n" (o.1.text :: o.2.map Token.text))) ∧
      (openings tagged ts).map Prod.fst = ts.filter (fun t => t.isComment && tagged t.text) ∧
      ((openings tagged ts).flatMap fun o => o.1 :: o.2).Sublist (ts.filter Token.isComment)) ∧
    ∀ (v : Vocabulary) (ts : List Token),
      Rule.missedLink.evaluate v ts =
        ((groups (fun text => (v.find? text).isSome) ts).filter fun g => !Link.occursIn g.text).map
          fun g => ⟨g.start.start.row, g.start.start.col, 3, "add link on issue into TODO"⟩ := by
  refine ⟨?_, Rule.evaluate_missedLink⟩
  intro tagged ts
  refine ⟨?_, fst_openings tagged ts, openings_sublist tagged ts⟩
  rw [groups_eq_map_openings, List.map_map]
  rfl

end TodoLint

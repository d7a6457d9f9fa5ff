import TodoLint.Proofs.Token.CommentScan

/-!
Where comments stand. Each comment of a source starts at a `#` of it, and they come in the
order of the source.
-/

namespace TodoLint

/-- A `#` of a text that begins at `p` stands at the place `q`. -/
def HashAt (p : Position) (cs : List Char) (q : Position) : Prop :=
  ∃ before after, cs = before ++ '#' :: after ∧ p.advance before = q

theorem HashAt.cons {p q : Position} {cs : List Char} (c : Char) (h : HashAt (p.after c) cs q) :
    HashAt p (c :: cs) q := by
  obtain ⟨before, after, rfl, hq⟩ := h
  exact ⟨c :: before, after, rfl, hq⟩

theorem HashAt.atOrBefore {p q : Position} {cs : List Char} (h : HashAt p cs q) :
    p.AtOrBefore q := by
  obtain ⟨before, after, -, rfl⟩ := h
  by_cases hnil : before = []
  · subst hnil
    exact .inl rfl
  · exact .inr (p.before_advance hnil)

/-- The comments of a scan start at a `#` each, in the order of the text. -/
theorem scanText_comments (context : Context) (skip : Nat) (p : Position) (cs : List Char) :
    (∀ t ∈ (scanText context skip p cs).comments, HashAt p cs t.start) ∧
      (scanText context skip p cs).comments.Pairwise fun a b => a.start.Before b.start := by
  induction cs generalizing context skip p with
  | nil => exact ⟨fun t ht => absurd ht List.not_mem_nil, .nil⟩
  | cons c cs ih =>
      cases skip with
      | succ skip =>
          obtain ⟨hat, hpairwise⟩ := ih context skip (p.after c)
          exact ⟨fun t ht => (hat t ht).cons c, hpairwise⟩
      | zero =>
          by_cases hhash : context = .code ∧ c = '#'
          · obtain ⟨rfl, rfl⟩ := hhash
            obtain ⟨hat, hpairwise⟩ :=
              ih .code (cs.takeWhile (· ≠ '\n')).length (p.after '#')
            rw [scanText_hash]
            constructor
            · intro t ht
              rcases List.mem_cons.mp ht with rfl | hrest
              · exact ⟨[], cs, rfl, rfl⟩
              · exact (hat t hrest).cons '#'
            · apply List.Pairwise.cons
              · intro t ht
                exact (p.before_after '#').trans_atOrBefore (hat t ht).atOrBefore
              · exact hpairwise
          · rw [scanText_cons context p hhash]
            obtain ⟨hat, hpairwise⟩ :=
              ih (context.next p.row c cs).1 (context.next p.row c cs).2 (p.after c)
            exact ⟨fun t ht => (hat t ht).cons c, hpairwise⟩

theorem hashAt_of_tokenize {source : String} {tokens : List Token} {t : Token}
    (h : tokenize source = .ok tokens) (ht : t ∈ tokens.filter Token.isComment) :
    HashAt ⟨1, 1⟩ source.toList t.start := by
  have hcomments := (scanText_comments .code 0 ⟨1, 1⟩ source.toList).1
  rw [scanText_of_tokenize_eq_ok h] at hcomments
  exact hcomments t ht

theorem pairwise_comments_of_tokenize {source : String} {tokens : List Token}
    (h : tokenize source = .ok tokens) :
    (tokens.filter Token.isComment).Pairwise fun a b => a.start.Before b.start := by
  have hcomments := (scanText_comments .code 0 ⟨1, 1⟩ source.toList).2
  rwa [scanText_of_tokenize_eq_ok h] at hcomments

end TodoLint

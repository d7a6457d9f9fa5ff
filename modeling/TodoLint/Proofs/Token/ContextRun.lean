import TodoLint.Proofs.Token.CommentScan

/-!
The context of the scan by characters in the middle of a text (`Context.run`): after plain text,
comments and ends of lines, and inside string literals, which either end within their line or keep
their context up to its end (`Context.run_closeSingle`, `Context.keeps_closeTriple`).
-/

namespace TodoLint

open Text

namespace Context

/-- The context after `front`, which stands at `p` before `rest`, and the number of the next
characters that are passed over. -/
def run (context : Context) (skip : Nat) (p : Position) : List Char → List Char → Context × Nat
  | [], _ => (context, skip)
  | c :: front, rest =>
      match skip with
      | skip + 1 => context.run skip (p.after c) front rest
      | 0 =>
          let next := context.next p.row c (front ++ rest)
          next.1.run next.2 (p.after c) front rest

section Steps

variable (context : Context) (p : Position)

@[simp] theorem run_nil (skip : Nat) (rest : List Char) :
    context.run skip p [] rest = (context, skip) := rfl

theorem run_cons (c : Char) (front rest : List Char) :
    context.run 0 p (c :: front) rest =
      (context.next p.row c (front ++ rest)).1.run (context.next p.row c (front ++ rest)).2
        (p.after c) front rest := rfl

theorem run_append (skip : Nat) (a b rest : List Char) :
    context.run skip p (a ++ b) rest =
      (context.run skip p a (b ++ rest)).1.run (context.run skip p a (b ++ rest)).2
        (p.advance a) b rest := by
  induction a generalizing context skip p with
  | nil => rfl
  | cons c a ih =>
      cases skip with
      | succ skip => exact ih _ _ skip
      | zero =>
          rw [List.cons_append, run_cons, run_cons, ih, List.append_assoc]
          rfl

theorem run_append_of_eq {context next : Context} {p : Position} {a b rest : List Char}
    (h : context.run 0 p a (b ++ rest) = (next, 0)) :
    context.run 0 p (a ++ b) rest = next.run 0 (p.advance a) b rest := by
  rw [run_append, h]

theorem run_passed (n : Nat) (front rest : List Char) :
    context.run (front.length + n) p front rest = (context, n) := by
  induction front generalizing p with
  | nil => simp
  | cons c front ih =>
      have hlength : (c :: front).length + n = front.length + n + 1 := by
        rw [List.length_cons]
        omega
      rw [hlength]
      exact ih (p.after c)

theorem run_code_plain {text : List Char} (rest : List Char) (htext : ∀ c ∈ text, IsPlain c) :
    code.run 0 p text rest = (code, 0) := by
  induction text generalizing p with
  | nil => rfl
  | cons c text ih =>
      have hc : IsPlain c := htext c List.mem_cons_self
      rw [run_cons]
      simp only [next, hc.1, hc.2, if_false, Bool.false_eq_true]
      exact ih _ fun d hd => htext d (List.mem_cons_of_mem c hd)

/-- A comment passes over the rest of its line. -/
theorem run_hash {cs : List Char} (rest : List Char) (hcs : '\n' ∉ cs) :
    code.run 0 p ('#' :: cs) rest = (code, (rest.takeWhile (· ≠ '\n')).length) := by
  have hline : ∀ c ∈ cs, decide (c ≠ '\n') = true := by
    intro c hc
    simpa using fun heq : c = '\n' => hcs (heq ▸ hc)
  rw [run_cons]
  simp only [next, if_true]
  rw [List.takeWhile_append_of_pos hline, List.length_append, run_passed]

theorem run_quote {q : Char} {cs tail : List Char} (hq : isQuote q = true)
    (hstrip : stripCopies q 2 cs = none) (htail : tail.head? ≠ some q) :
    code.run 0 p [q] (cs ++ tail) = (single q, 0) := by
  have hone : [q, q].isPrefixOf (cs ++ tail) = false := by
    have hcopies := isPrefixOf_replicate_append 2 cs htail
    rwa [hstrip] at hcopies
  have hhash : q ≠ '#' := ne_of_isQuote hq (by decide)
  simp [run, next, hhash, hq, hone]

theorem run_quotes {q : Char} (hq : isQuote q = true) (rest : List Char) :
    code.run 0 p [q, q, q] rest = (triple q p.row, 0) := by
  have hhash : q ≠ '#' := ne_of_isQuote hq (by decide)
  simp [run, next, hhash, hq]

end Steps

/-! ### Ends of lines -/

section LineEnds

variable {terminator rest : List Char} {q : Char} {skip row : Nat} (p : Position)

theorem terminator_eq_of_feed (h : Line.EndsBefore ⟨[], terminator⟩ rest)
    (hfeed : '\n' ∈ terminator) : terminator = ['\n'] ∨ terminator = ['\r', '\n'] := by
  rcases h.terminator_cases with hterm | hterm | ⟨rfl, -⟩ | ⟨rfl, -⟩
  · exact .inl hterm
  · exact .inr hterm
  · simp at hfeed
  · simp at hfeed

/-- Passing over a part of a terminator does not pass over its line feed. -/
theorem run_code_terminator (h : Line.EndsBefore ⟨[], terminator⟩ rest)
    (hfeed : '\n' ∈ terminator) (hskip : skip < terminator.length) :
    code.run skip p terminator rest = (code, 0) := by
  rcases terminator_eq_of_feed h hfeed with rfl | rfl
  · obtain rfl : skip = 0 := by simpa using hskip
    simp [run, next, isQuote]
  · obtain rfl | rfl : skip = 0 ∨ skip = 1 := by simp at hskip; omega
    · simp [run, next, isQuote]
    · simp [run, next, isQuote]

theorem run_single_terminator (hq : isQuote q = true) (h : Line.EndsBefore ⟨[], terminator⟩ rest)
    (hfeed : '\n' ∈ terminator) (hskip : skip < terminator.length) :
    (single q).run skip p terminator rest = (code, 0) := by
  have hreturn : q ≠ '\r' := ne_of_isQuote hq (by decide)
  rcases terminator_eq_of_feed h hfeed with rfl | rfl
  · obtain rfl : skip = 0 := by simpa using hskip
    simp [run, next]
  · obtain rfl | rfl : skip = 0 ∨ skip = 1 := by simp at hskip; omega
    · simp [run, next, hreturn.symm]
    · simp [run, next]

theorem run_triple_terminator (hq : isQuote q = true) (h : Line.EndsBefore ⟨[], terminator⟩ rest)
    (hfeed : '\n' ∈ terminator) (hskip : skip ≤ 1) :
    (triple q row).run skip p terminator rest = (triple q row, 0) := by
  have hq' : q ≠ '\n' := ne_of_isQuote hq (by decide)
  have hreturn : q ≠ '\r' := ne_of_isQuote hq (by decide)
  obtain rfl | rfl : skip = 0 ∨ skip = 1 := by omega
  · rcases terminator_eq_of_feed h hfeed with rfl | rfl <;> simp [run, next, hq', hreturn]
  · rcases terminator_eq_of_feed h hfeed with rfl | rfl <;> simp [run, next, hq']

end LineEnds

/-! ### String literals -/

/-- The scan of `cs`, the rest of a line, keeps its context up to the terminator and leaves the
context `after` behind it. -/
structure Keeps (context after : Context) (p : Position) (cs terminator rest : List Char) :
    Prop where
  inside : ∀ a b, a ++ b = cs → (context.run 0 p a (b ++ (terminator ++ rest))).1 = context
  behind : '\n' ∈ terminator → context.run 0 p (cs ++ terminator) rest = (after, 0)

namespace Keeps

variable {context after : Context} {p : Position} {c d : Char} {cs terminator rest : List Char}

theorem nil (h : '\n' ∈ terminator → context.run 0 p terminator rest = (after, 0)) :
    context.Keeps after p [] terminator rest where
  inside := by
    intro a b hab
    obtain ⟨rfl, rfl⟩ := List.append_eq_nil_iff.mp hab
    rfl
  behind := h

/-- The last character before the terminator may lead to passing over a part of it. -/
theorem last (hc : (context.next p.row c (terminator ++ rest)).1 = context)
    (h : '\n' ∈ terminator → context.run 0 p (c :: terminator) rest = (after, 0)) :
    context.Keeps after p [c] terminator rest where
  inside := by
    intro a b hab
    rcases List.append_eq_singleton_iff.mp hab with ⟨rfl, rfl⟩ | ⟨rfl, rfl⟩
    · rfl
    · exact hc
  behind := h

theorem cons (h : context.next p.row c (cs ++ (terminator ++ rest)) = (context, 0))
    (hcs : context.Keeps after (p.after c) cs terminator rest) :
    context.Keeps after p (c :: cs) terminator rest where
  inside := by
    intro a b hab
    cases a with
    | nil => rfl
    | cons x a =>
        rw [List.cons_append, List.cons.injEq] at hab
        obtain ⟨rfl, rfl⟩ := hab
        rw [List.append_assoc] at h
        rw [run_cons, h]
        exact hcs.inside a b rfl
  behind := by
    intro hfeed
    rw [List.cons_append, run_cons, List.append_assoc, h]
    exact hcs.behind hfeed

theorem escape (h : context.next p.row c (d :: cs ++ (terminator ++ rest)) = (context, 1))
    (hcs : context.Keeps after (p.advance [c, d]) cs terminator rest) :
    context.Keeps after p (c :: d :: cs) terminator rest where
  inside := by
    intro a b hab
    match a with
    | [] => rfl
    | [x] =>
        rw [List.singleton_append, List.cons.injEq] at hab
        obtain ⟨rfl, rfl⟩ := hab
        rw [run_cons, List.nil_append, h]
        rfl
    | x :: y :: a =>
        rw [List.cons_append, List.cons_append, List.cons.injEq, List.cons.injEq] at hab
        obtain ⟨rfl, rfl, rfl⟩ := hab
        rw [List.cons_append, List.append_assoc] at h
        rw [run_cons, List.cons_append, h]
        exact hcs.inside a b rfl
  behind := by
    intro hfeed
    rw [List.cons_append, run_cons, List.append_assoc, h]
    exact hcs.behind hfeed

end Keeps

section Literals

variable {q : Char} {cs body after terminator rest : List Char} (row : Nat) (p : Position)

/-- A backslash at the end of a line takes no character behind its terminator with it. -/
theorem keeps_backslash_single (hq : isQuote q = true)
    (h : Line.EndsBefore ⟨[], terminator⟩ rest) :
    (single q).Keeps code p ['\\'] terminator rest := by
  have hslash : q ≠ '\\' := ne_of_isQuote hq (by decide)
  refine .last ?_ fun hfeed => ?_
  · simp only [next, hslash.symm, false_or]
    rw [if_neg (by decide)]
    split <;> rfl
  · rcases terminator_eq_of_feed h hfeed with rfl | rfl
    · simp [run, next, hslash.symm]
    · simp [run, next, hslash.symm]

/-- A string literal with one quote is closed, or it takes the rest of its line. -/
theorem run_closeSingle (hq : isQuote q = true) (h : Line.EndsBefore ⟨cs, terminator⟩ rest)
    (hclose : closeSingle q cs = (body, after)) :
    ((single q).run 0 p body (after ++ (terminator ++ rest)) = (code, 0) ∧
        body.getLast? = some q) ∨
      after = [] ∧ (single q).Keeps code p body terminator rest := by
  have hslash : q ≠ '\\' := ne_of_isQuote hq (by decide)
  fun_induction closeSingle q cs generalizing p body after with
  | case1 =>
      obtain ⟨rfl, rfl⟩ := Prod.mk.inj hclose
      exact .inr ⟨rfl, .nil fun hfeed =>
        run_single_terminator p hq h hfeed (List.length_pos_of_mem hfeed)⟩
  | case2 c cs inner more hinner ih =>
      obtain ⟨rfl, rfl⟩ := Prod.mk.inj hclose
      have hc : c ≠ '\n' := h.tail.head_ne
      have hnext : ∀ tail, (single q).next p.row '\\' (c :: tail) = (single q, 1) := by
        intro tail
        simp [next, hslash.symm, hc]
      rcases ih (p.advance ['\\', c]) h.tail.tail hinner with ⟨hrun, hlast⟩ | ⟨hnil, hkeeps⟩
      · refine .inl ⟨?_, by simp [List.getLast?_cons, hlast]⟩
        rw [run_cons, List.cons_append, hnext]
        exact hrun
      · exact .inr ⟨hnil, hkeeps.escape (hnext _)⟩
  | case3 cs hne =>
      obtain ⟨rfl, rfl⟩ := Prod.mk.inj hclose
      exact .inl ⟨by simp [run, next], rfl⟩
  | case4 c cs hne hc inner more hinner ih =>
      obtain ⟨rfl, rfl⟩ := Prod.mk.inj hclose
      by_cases hc' : c = '\\'
      · -- a backslash at the end of its line escapes nothing
        subst hc'
        have hnil : cs = [] := eq_nil_of_no_escape rfl hne
        subst hnil
        obtain ⟨rfl, rfl⟩ := Prod.mk.inj hinner
        exact .inr ⟨rfl, keeps_backslash_single p hq h.without_body⟩
      · have hnext : ∀ tail, (single q).next p.row c tail = (single q, 0) := by
          intro tail
          simp [next, hc, h.head_ne, hc']
        rcases ih (p.after c) h.tail hinner with ⟨hrun, hlast⟩ | ⟨hnil, hkeeps⟩
        · refine .inl ⟨?_, by simp [List.getLast?_cons, hlast]⟩
          rw [run_cons, hnext]
          exact hrun
        · exact .inr ⟨hnil, hkeeps.cons (hnext _)⟩

theorem run_closeTriple {tail : List Char} (hq : isQuote q = true) (htail : tail.head? ≠ some q)
    (hclose : closeTriple q cs = some (body, after)) :
    (triple q row).run 0 p body (after ++ tail) = (code, 0) ∧ body.getLast? = some q := by
  have hslash : q ≠ '\\' := ne_of_isQuote hq (by decide)
  fun_induction closeTriple q cs generalizing p body after with
  | case1 => cases hclose
  | case2 c cs ih =>
      simp only [Option.map_eq_some_iff, Prod.exists, Prod.mk.injEq] at hclose
      obtain ⟨inner, after, hinner, rfl, rfl⟩ := hclose
      obtain ⟨hrun, hlast⟩ := ih (p.advance ['\\', c]) hinner
      exact ⟨hrun, by simp [List.getLast?_cons, hlast]⟩
  | case3 c cs hne after' hstrip =>
      simp only [Option.some.injEq, Prod.mk.injEq] at hclose
      obtain ⟨rfl, rfl⟩ := hclose
      exact ⟨by simp [run, next, hslash], rfl⟩
  | case4 c cs hne hstrip ih =>
      simp only [Option.map_eq_some_iff, Prod.exists, Prod.mk.injEq] at hclose
      obtain ⟨inner, after, hinner, rfl, rfl⟩ := hclose
      have hc : c ≠ '\\' := by
        intro hc
        rw [eq_nil_of_no_escape hc hne] at hinner
        cases hinner
      have hopen : [q, q, q].isPrefixOf (c :: (cs ++ tail)) = false := by
        have hcopies := isPrefixOf_replicate_append 3 (c :: cs) htail
        rwa [hstrip] at hcopies
      have hsplit := closeTriple_append hinner
      obtain ⟨hrun, hlast⟩ := ih (p.after c) hinner
      refine ⟨?_, by simp [List.getLast?_cons, hlast]⟩
      rw [run_cons, ← List.append_assoc, hsplit]
      simp only [next, hc, hopen, if_false, Bool.false_eq_true]
      exact hrun

/-- A string literal with three quotes that the rest of its line does not close. -/
theorem keeps_closeTriple (hq : isQuote q = true) (h : Line.EndsBefore ⟨cs, terminator⟩ rest)
    (hclose : closeTriple q cs = none) :
    (triple q row).Keeps (triple q row) p cs terminator rest := by
  fun_induction closeTriple q cs generalizing p with
  | case1 =>
      exact .nil fun hfeed => run_triple_terminator p hq h hfeed (Nat.zero_le 1)
  | case2 c cs ih =>
      exact (ih (p.advance ['\\', c]) h.tail.tail (by simpa using hclose)).escape (by simp [next])
  | case3 c cs hne after' hstrip => cases hclose
  | case4 c cs hne hstrip ih =>
      by_cases hc : c = '\\'
      · have hnil := eq_nil_of_no_escape hc hne
        subst hc hnil
        refine .last (by simp [next]) fun hfeed => ?_
        rw [run_cons]
        simp only [next, if_true]
        exact run_triple_terminator _ hq h.tail hfeed (Nat.le_refl 1)
      · have hopen : [q, q, q].isPrefixOf (c :: (cs ++ (terminator ++ rest))) = false := by
          have hcopies := isPrefixOf_replicate_append 3 (c :: cs) (head?_ne_of_isQuote hq h)
          rwa [hstrip] at hcopies
        exact (ih (p.after c) h.tail (by simpa using hclose)).cons (by simp [next, hc, hopen])

end Literals

end Context

end TodoLint

import TodoLint.Proofs.FindingOrder
import TodoLint.Proofs.Gist
import TodoLint.Proofs.Text.Lines

/-!
The characters that end lines do not matter. Tokens depend on the bodies of lines, and of the
terminators only in what no rule looks at, so that findings stay the same when every line feed
gets a carriage return or when the source gets one more line feed at its end
(`checkSource_line_endings`).
-/

namespace TodoLint

open Text

namespace Text

/-- The text with a carriage return in front of every line feed. -/
def withReturns (cs : List Char) : List Char :=
  cs.flatMap fun c => if c = '\n' then ['\r', '\n'] else [c]

theorem withReturns_feed (cs : List Char) :
    withReturns ('\n' :: cs) = '\r' :: '\n' :: withReturns cs := rfl

theorem withReturns_cons {c : Char} (hc : c ≠ '\n') (cs : List Char) :
    withReturns (c :: cs) = c :: withReturns cs := by
  simp [withReturns, hc]

namespace Line

theorem close_return (feed acc : List Char) :
    close feed ('\r' :: acc) = ⟨acc.reverse, '\r' :: feed⟩ := rfl

theorem body_close (feed other acc : List Char) :
    (close feed acc).body = (close other acc).body := by
  unfold close
  split <;> rfl

theorem body_splitFrom_withReturns {acc cs : List Char} (hacc : '\r' ∉ acc) (hcs : '\r' ∉ cs) :
    (splitFrom acc (withReturns cs)).map body = (splitFrom acc cs).map body := by
  induction cs generalizing acc with
  | nil => rfl
  | cons c cs ih =>
      simp only [List.mem_cons, not_or] at hcs
      by_cases hc : c = '\n'
      · subst hc
        have hrest := @ih [] (by simp) hcs.2
        simp [withReturns_feed, splitFrom, close_return, close_of_return_notMem ['\n'] hacc, hrest]
      · have hrest := @ih (c :: acc) (by simp [hcs.1, hacc]) hcs.2
        simpa [withReturns_cons hc, splitFrom] using hrest

/-- A carriage return in front of every line feed changes the terminators alone. -/
theorem body_split_withReturns {cs : List Char} (hcs : '\r' ∉ cs) :
    (split (withReturns cs)).map body = (split cs).map body :=
  body_splitFrom_withReturns (by simp) hcs

theorem body_splitFrom_append_feed (acc cs : List Char) :
    (splitFrom acc (cs ++ ['\n'])).map body = (splitFrom acc cs).map body ∨
      splitFrom acc (cs ++ ['\n']) = splitFrom acc cs ++ [⟨[], ['\n']⟩] := by
  induction cs generalizing acc with
  | nil =>
      by_cases hacc : acc = []
      · subst hacc
        exact .inr rfl
      · left
        simp [splitFrom, hacc, body_close ['\n'] []]
  | cons c cs ih =>
      by_cases hc : c = '\n'
      · simpa [hc, splitFrom] using ih []
      · simpa [splitFrom] using ih (c :: acc)

/-- One more line feed ends the last line of a text, or else it makes an empty line. -/
theorem body_split_append_feed (cs : List Char) :
    (split (cs ++ ['\n'])).map body = (split cs).map body ∨
      split (cs ++ ['\n']) = split cs ++ [⟨[], ['\n']⟩] :=
  body_splitFrom_append_feed [] cs

end Line

end Text

/-! ### Outlines -/

/-- A token list without its line breaks, and with the tokens bare. -/
def outline (ts : List Token) : List Token :=
  (ts.filter fun t => ¬ t.IsBreak).map Token.bare

theorem outline_append (ts us : List Token) : outline (ts ++ us) = outline ts ++ outline us := by
  simp [outline]

theorem outline_of_isBreak {t : Token} (h : t.IsBreak) : outline [t] = [] := by
  simp [outline, h]

theorem outline_endMark (rows : Nat) : outline [endMark rows] = [(endMark 0).bare] := rfl

theorem gist_eq_destutter_outline (ts : List Token) :
    gist ts = (outline ts).destutter Token.Apart := by
  apply List.map_destutter
  intro t _ u _
  simp [Token.Apart]

theorem check_eq_of_outline_eq {r : Registry} (hr : r.IsTextual) {s t : List Token}
    (h : outline s = outline t) : r.check s = r.check t := by
  apply Registry.check_congr hr
  rw [gist_eq_destutter_outline, h, gist_eq_destutter_outline]

/-! ### Lines with the same bodies -/

/-- The literal without its text. -/
def OpenString.bare (opened : OpenString) : OpenString :=
  { opened with text := [] }

/-- What a line leaves to the next one, without the text of an open literal. -/
def Carry.bare (carry : Carry) : Carry :=
  { carry with pending := carry.pending.map OpenString.bare }

/-- The same scan, but for line breaks and for the texts of code. -/
structure LineScan.Matches (s t : LineScan) : Prop where
  outline_eq : outline s.tokens = outline t.tokens
  carry_eq : s.carry.bare = t.carry.bare
  joined_eq : s.joined = t.joined

section Scans

variable {row : Nat} {a b : Carry}

theorem Carry.bare_eq_iff :
    a.bare = b.bare ↔ a.depth = b.depth ∧ a.logicalOpen = b.logicalOpen ∧
      a.pending.map OpenString.bare = b.pending.map OpenString.bare := by
  simp [Carry.bare]

theorem outline_cons_congr {t u : Token} {ts us : List Token} (ht : t.kind = .other)
    (hu : u.kind = .other) (h : outline ts = outline us) :
    outline (t :: ts) = outline (u :: us) := by
  simpa [outline, Token.IsBreak, Token.bare, ht, hu] using h

theorem matches_scanCode {col : Nat} {terminator other : List Char} (cs : List Char) :
    ∀ b : Carry, a.bare = b.bare →
      (scanCode row terminator col a cs).Matches (scanCode row other col b cs) := by
  -- what the scan reads of its carry is bare, so that the other scan takes the same steps
  fun_induction scanCode row terminator col a cs with
  | case1 col a =>
      intro b h
      rw [scanCode_nil]
      exact ⟨rfl, h, rfl⟩
  | case2 col a c cs hread ih =>
      intro b h
      rw [scanCode_of_blank hread]
      exact ih b h
  | case3 col a c cs hread =>
      intro b h
      rw [scanCode_of_comment hread]
      exact ⟨rfl, h, rfl⟩
  | case4 col a c cs hread =>
      intro b h
      rw [scanCode_of_continuation hread]
      exact ⟨rfl, h, rfl⟩
  | case5 col a c cs text after hread token next ih =>
      intro b h
      obtain ⟨hdepth, -, hpending⟩ := Carry.bare_eq_iff.mp h
      obtain ⟨houtline, hcarry, hjoined⟩ :=
        ih { b with depth := depthAfter b.depth text, logicalOpen := true }
          (Carry.bare_eq_iff.mpr ⟨by simp only [hdepth], rfl, hpending⟩)
      rw [scanCode_of_piece hread]
      exact ⟨outline_cons_congr rfl rfl houtline, hcarry, hjoined⟩
  | case6 col a c cs quote hread opened =>
      intro b h
      obtain ⟨hdepth, -, -⟩ := Carry.bare_eq_iff.mp h
      rw [scanCode_of_unclosed hread]
      exact ⟨rfl, Carry.bare_eq_iff.mpr ⟨hdepth, rfl, rfl⟩, rfl⟩

theorem matches_scanBody {line other : Line} (hbody : line.body = other.body)
    (h : a.bare = b.bare) : (scanBody row line a).Matches (scanBody row other b) := by
  obtain ⟨hdepth, hopen, hpending⟩ := Carry.bare_eq_iff.mp h
  cases ha : a.pending with
  | none =>
      have hb : b.pending = none := by simpa [ha] using hpending.symm
      rw [scanBody_of_none ha, scanBody_of_none hb, hbody]
      exact matches_scanCode other.body b h
  | some opened =>
      obtain ⟨opened', hb, hbare⟩ : ∃ opened', b.pending = some opened' ∧
          opened'.bare = opened.bare := by
        simpa [ha] using hpending.symm
      have hquote : opened'.quote = opened.quote := by
        simpa [OpenString.bare] using congrArg OpenString.quote hbare
      cases hclose : closeTriple opened.quote line.body with
      | none =>
          rw [scanBody_of_open ha hclose, scanBody_of_open hb (by rw [hquote, ← hbody, hclose])]
          exact ⟨rfl, Carry.bare_eq_iff.mpr ⟨hdepth, hopen, congrArg some hbare.symm⟩, rfl⟩
      | some found =>
          obtain ⟨part, after⟩ := found
          rw [scanBody_of_closed ha hclose, scanBody_of_closed hb (by rw [hquote, ← hbody, hclose])]
          obtain ⟨houtline, hcarry, hjoined⟩ :=
            @matches_scanCode row { a with logicalOpen := true, pending := none } (part.length + 1)
              line.terminator other.terminator after
              { b with logicalOpen := true, pending := none }
              (Carry.bare_eq_iff.mpr ⟨hdepth, rfl, rfl⟩)
          exact ⟨outline_cons_congr rfl rfl houtline, hcarry, hjoined⟩

theorem bare_breakAfter (row : Nat) (line other : Line) (h : a.bare = b.bare) :
    (breakAfter row line a).2.bare = (breakAfter row other b).2.bare := by
  obtain ⟨hdepth, hopen, hpending⟩ := Carry.bare_eq_iff.mp h
  simp [breakAfter, Carry.bare, hdepth, hopen, hpending]

theorem outline_scanLine_of_not_joined {line : Line} {carry : Carry}
    (h : (scanBody row line carry).joined = false) :
    outline (scanLine row line carry).1 = outline (scanBody row line carry).tokens := by
  rw [scanLine_of_not_joined h, outline_append, outline_of_isBreak (kind_breakAfter row line _),
    List.append_nil]

theorem matches_scanLine {line other : Line} (hbody : line.body = other.body)
    (h : a.bare = b.bare) :
    outline (scanLine row line a).1 = outline (scanLine row other b).1 ∧
      (scanLine row line a).2.bare = (scanLine row other b).2.bare := by
  obtain ⟨houtline, hcarry, hjoined⟩ := @matches_scanBody row a b line other hbody h
  cases hb : (scanBody row other b).joined with
  | true =>
      rw [scanLine_of_joined hb, scanLine_of_joined (hjoined.trans hb)]
      exact ⟨houtline, hcarry⟩
  | false =>
      have ha := hjoined.trans hb
      rw [outline_scanLine_of_not_joined hb, outline_scanLine_of_not_joined ha,
        scanLine_of_not_joined hb, scanLine_of_not_joined ha]
      exact ⟨houtline, bare_breakAfter row line other hcarry⟩

/-- Lines with the same bodies leave the same outline and the same for the lines after them. -/
theorem matches_scanLines {lines others : List Line}
    (hbodies : lines.map Line.body = others.map Line.body) (h : a.bare = b.bare) :
    outline (scanLines row a lines).1 = outline (scanLines row b others).1 ∧
      (scanLines row a lines).2.bare = (scanLines row b others).2.bare := by
  induction lines generalizing row a b others with
  | nil =>
      obtain rfl : others = [] := by simpa using hbodies.symm
      exact ⟨rfl, h⟩
  | cons line lines ih =>
      cases others with
      | nil => simp at hbodies
      | cons other others =>
          obtain ⟨hbody, hrest⟩ : line.body = other.body ∧
              lines.map Line.body = others.map Line.body := by
            simpa using hbodies
          obtain ⟨hline, hnext⟩ := @matches_scanLine row a b line other hbody h
          obtain ⟨hlines, hlast⟩ := @ih (row + 1) _ _ others hrest hnext
          rw [scanLines_cons, scanLines_cons, outline_append, outline_append, hline, hlines]
          exact ⟨rfl, hlast⟩

/-- An empty line gives no token but a break, and closes no string literal. -/
theorem scanLine_empty (terminator : List Char) (carry : Carry) :
    outline (scanLine row ⟨[], terminator⟩ carry).1 = [] ∧
      (scanLine row ⟨[], terminator⟩ carry).2.pending.map OpenString.bare =
        carry.pending.map OpenString.bare := by
  cases hpending : carry.pending with
  | none =>
      have hbody : scanBody row ⟨[], terminator⟩ carry = ⟨[], carry, false⟩ := by
        rw [scanBody_of_none hpending]
        exact scanCode_nil
      have hjoined : (scanBody row ⟨[], terminator⟩ carry).joined = false := by rw [hbody]
      rw [outline_scanLine_of_not_joined hjoined, scanLine_of_not_joined hjoined, hbody]
      exact ⟨rfl, congrArg (Option.map OpenString.bare) hpending⟩
  | some opened =>
      have hbody : scanBody row ⟨[], terminator⟩ carry =
          ⟨[], { carry with pending := some { opened with text := opened.text ++ terminator } },
            true⟩ :=
        scanBody_of_open hpending rfl
      have hjoined : (scanBody row ⟨[], terminator⟩ carry).joined = true := by rw [hbody]
      rw [scanLine_of_joined hjoined, hbody]
      exact ⟨rfl, rfl⟩

end Scans

/-! ### Sources -/

/-- The source with a carriage return in front of every line feed. -/
def withReturns (source : String) : String :=
  String.ofList (Text.withReturns source.toList)

def scanSource (source : String) : List Token × Carry :=
  scanLines 1 {} (Line.split source.toList)

section Sources

variable {r : Registry} (hr : r.IsTextual)
include hr

/-- Sources with the same outline have the same findings, unless a string literal is left open, and
then the row on which it was opened is the same. -/
theorem checkSource_congr {a b : String}
    (houtline : outline (scanSource a).1 = outline (scanSource b).1)
    (hpending : (scanSource a).2.pending.map OpenString.bare =
      (scanSource b).2.pending.map OpenString.bare) :
    r.checkSource a = r.checkSource b := by
  cases hb : (scanSource b).2.pending with
  | none =>
      have ha : (scanSource a).2.pending = none := by simpa [hb] using hpending
      have hcheck : r.check ((scanSource a).1 ++ [endMark (Line.split a.toList).length]) =
          r.check ((scanSource b).1 ++ [endMark (Line.split b.toList).length]) := by
        apply check_eq_of_outline_eq hr
        rw [outline_append, outline_append, houtline, outline_endMark, outline_endMark]
      rw [Registry.checkSource_eq_ok (tokenize_eq_ok_iff.mpr ⟨ha, rfl⟩),
        Registry.checkSource_eq_ok (tokenize_eq_ok_iff.mpr ⟨hb, rfl⟩)]
      exact congrArg Except.ok hcheck
  | some opened =>
      obtain ⟨opened', ha, hbare⟩ : ∃ opened', (scanSource a).2.pending = some opened' ∧
          opened'.bare = opened.bare := by
        simpa [hb] using hpending
      have hrow : opened'.start.row = opened.start.row := by
        have hstart := congrArg OpenString.start hbare
        exact congrArg Position.row hstart
      rw [Registry.checkSource_eq_error (tokenize_eq_error_iff.mpr ⟨opened', ha, rfl⟩),
        Registry.checkSource_eq_error (tokenize_eq_error_iff.mpr ⟨opened, hb, rfl⟩), hrow]

theorem checkSource_congr_bodies {a b : String}
    (h : (Line.split a.toList).map Line.body = (Line.split b.toList).map Line.body) :
    r.checkSource a = r.checkSource b := by
  obtain ⟨houtline, hcarry⟩ := @matches_scanLines 1 {} {} _ _ h rfl
  exact checkSource_congr hr houtline (Carry.bare_eq_iff.mp hcarry).2.2

theorem checkSource_withReturns {source : String} (h : '\r' ∉ source.toList) :
    r.checkSource (withReturns source) = r.checkSource source := by
  apply checkSource_congr_bodies hr
  rw [withReturns, String.toList_ofList]
  exact Line.body_split_withReturns h

theorem checkSource_append_feed (source : String) :
    r.checkSource (source ++ "\n") = r.checkSource source := by
  have htext : (source ++ "\n").toList = source.toList ++ ['\n'] := String.toList_append
  let rows := (Line.split source.toList).length
  rcases Line.body_split_append_feed source.toList with hbodies | hlines
  · apply checkSource_congr_bodies hr
    rw [htext, hbodies]
  · have hscan : scanSource (source ++ "\n") =
        ((scanSource source).1 ++
            (scanLines (1 + rows) (scanSource source).2 [⟨[], ['\n']⟩]).1,
          (scanLines (1 + rows) (scanSource source).2 [⟨[], ['\n']⟩]).2) := by
      rw [scanSource, htext, hlines, scanLines_append]
      rfl
    obtain ⟨houtline, hpending⟩ := @scanLine_empty (1 + rows) ['\n'] (scanSource source).2
    apply checkSource_congr hr
    · rw [hscan, scanLines_cons, outline_append, outline_append, houtline]
      exact List.append_nil _
    · rw [hscan]
      exact hpending

end Sources

/-- A check comes to the same whether lines end with a line feed alone or after a carriage return,
and whether or not one more line feed ends the source, whatever the configuration, and also with
other rules that look at texts alone. -/
theorem checkSource_line_endings {r : Registry}
    (hr : (∃ c : Config, c.registry = .ok r) ∨ r.IsTextual) (source : String) :
    ('\r' ∉ source.toList → r.checkSource (withReturns source) = r.checkSource source) ∧
      r.checkSource (source ++ "\n") = r.checkSource source := by
  have htextual : r.IsTextual := by
    rcases hr with ⟨c, hc⟩ | hr
    · exact Config.isTextual_registry hc
    · exact hr
  exact ⟨checkSource_withReturns htextual, checkSource_append_feed htextual source⟩

/-- A string literal over two lines, a joined line and a comment without a line feed after it. -/
theorem line_endings_joined :
    let source := "x = '''\\\n# a''' + \\\ny # todo"
    '\r' ∉ source.toList ∧
      Registry.default.checkSource (withReturns source) = Registry.default.checkSource source ∧
      Registry.default.checkSource (source ++ "\n") = Registry.default.checkSource source ∧
      (Registry.default.checkSource source).toOption.map (·.map Finding.place) =
        some [⟨3, 3⟩, ⟨3, 3⟩, ⟨3, 3⟩, ⟨3, 3⟩, ⟨3, 3⟩] := by
  intro source
  have hsource : '\r' ∉ source.toList := by decide
  have hregistry : Config.registry {} = .ok Registry.default := rfl
  obtain ⟨hreturns, hfeed⟩ := checkSource_line_endings (.inl ⟨{}, hregistry⟩) source
  exact ⟨hsource, hreturns hsource, hfeed, by decide +kernel⟩

end TodoLint

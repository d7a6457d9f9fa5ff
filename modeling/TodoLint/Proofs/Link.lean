import TodoLint.Link
import TodoLint.Proofs.Text.Pattern
import TodoLint.Proofs.Text.Substring

/-!
References to an issue in joined texts. A link occurs exactly where one of the shortest references
does (`Link.occursIn_iff`), and of the line feeds between joined texts a link can take only one that
it begins with, so that the texts can be looked at one by one (`Link.occursIn_joined`).
-/

namespace TodoLint.Link

open Text

/-- The shortest references: the start of a web address, a capital letter before a digit, perhaps
with a hyphen between them, and white space before a `#` and a digit. -/
inductive Reference : List Char → Prop
  | http : Reference "http://".toList
  | https : Reference "https://".toList
  | code {letter digit : Char} (hletter : letter.isUpper = true)
      (hdigit : isDecimalDigit digit = true) : Reference [letter, digit]
  | hyphenated {letter digit : Char} (hletter : letter.isUpper = true)
      (hdigit : isDecimalDigit digit = true) : Reference [letter, '-', digit]
  | ticket {blank digit : Char} (hblank : isBlank blank = true)
      (hdigit : isDecimalDigit digit = true) : Reference [blank, '#', digit]

/-- A stretch of text that the search for a link takes. -/
def IsLink (stretch : List Char) : Prop :=
  stretch = "http://".toList ∨ stretch = "https://".toList ∨
    issueCode.Matches stretch ∨ ticketNumber.Matches stretch

variable {stretch r : List Char}

/-! ### The patterns of a link -/

theorem matches_digits_iff {digits : List Char} :
    (Pattern.run isDecimalDigit 1 none).Matches digits ↔
      (∀ c ∈ digits, isDecimalDigit c = true) ∧ digits ≠ [] := by
  simp [Pattern.Matches, Nat.one_le_iff_ne_zero]

theorem matches_hyphen_iff {hyphen : List Char} :
    (Pattern.run (· == '-') 0 (some 1)).Matches hyphen ↔ hyphen = [] ∨ hyphen = ['-'] := by
  match hyphen with
  | [] => simp [Pattern.Matches]
  | [c] => simp [Pattern.Matches]
  | c :: d :: more => simp [Pattern.Matches]

theorem matches_issueCode_iff :
    issueCode.Matches stretch ↔
      ∃ letters hyphen digits, letters ++ (hyphen ++ digits) = stretch ∧
        ((∀ c ∈ letters, c.isUpper = true) ∧ 1 ≤ letters.length ∧ letters.length ≤ 6) ∧
        (hyphen = [] ∨ hyphen = ['-']) ∧
        (∀ c ∈ digits, isDecimalDigit c = true) ∧ digits ≠ [] := by
  constructor
  · rintro ⟨letters, -, rfl, ⟨hupper, hleast, hmost⟩, hyphen, -, rfl, hhyphen, digits, -, rfl,
      hdigits, rfl⟩
    rw [List.append_nil]
    exact ⟨letters, hyphen, digits, rfl, ⟨hupper, hleast, hmost 6 rfl⟩,
      matches_hyphen_iff.mp hhyphen, matches_digits_iff.mp hdigits⟩
  · rintro ⟨letters, hyphen, digits, rfl, ⟨hupper, hleast, hmost⟩, hhyphen, hdigits⟩
    refine ⟨letters, _, rfl, ⟨hupper, hleast, ?_⟩, hyphen, _, rfl, matches_hyphen_iff.mpr hhyphen,
      digits, [], List.append_nil digits, matches_digits_iff.mpr hdigits, rfl⟩
    rintro bound ⟨⟩
    exact hmost

theorem matches_ticketNumber_iff :
    ticketNumber.Matches stretch ↔
      ∃ blank digits, blank :: '#' :: digits = stretch ∧ isBlank blank = true ∧
        (∀ c ∈ digits, isDecimalDigit c = true) ∧ digits ≠ [] := by
  constructor
  · rintro ⟨-, -, rfl, ⟨blank, rfl, hblank⟩, -, -, rfl, ⟨hash, rfl, hhash⟩, digits, -, rfl,
      hdigits, rfl⟩
    obtain rfl := eq_of_beq hhash
    exact ⟨blank, digits, by simp, hblank, matches_digits_iff.mp hdigits⟩
  · rintro ⟨blank, digits, rfl, hblank, hdigits⟩
    exact ⟨[blank], _, rfl, ⟨blank, rfl, hblank⟩, ['#'], _, rfl, ⟨'#', rfl, rfl⟩, digits, [],
      List.append_nil digits, matches_digits_iff.mpr hdigits, rfl⟩

/-! ### Links and references -/

theorem isLink_of_reference (h : Reference r) : IsLink r := by
  cases h with
  | http => exact .inl rfl
  | https => exact .inr (.inl rfl)
  | @code letter digit hletter hdigit =>
      refine .inr (.inr (.inl (matches_issueCode_iff.mpr ⟨[letter], [], [digit], rfl, ?_⟩)))
      simp [hletter, hdigit]
  | @hyphenated letter digit hletter hdigit =>
      refine .inr (.inr (.inl (matches_issueCode_iff.mpr ⟨[letter], ['-'], [digit], rfl, ?_⟩)))
      simp [hletter, hdigit]
  | @ticket blank digit hblank hdigit =>
      refine .inr (.inr (.inr (matches_ticketNumber_iff.mpr ⟨blank, [digit], rfl, hblank, ?_⟩)))
      simp [hdigit]

/-- The last letter and the first digit of an issue code make a reference, and so do the first
characters of a ticket number. -/
theorem exists_reference_of_isLink (h : IsLink stretch) : ∃ r, Reference r ∧ r <:+: stretch := by
  rcases h with rfl | rfl | hcode | hticket
  · exact ⟨_, .http, List.infix_rfl⟩
  · exact ⟨_, .https, List.infix_rfl⟩
  · obtain ⟨letters, hyphen, digits, rfl, ⟨hupper, hleast, -⟩, hhyphen, hdigits, hne⟩ :=
      matches_issueCode_iff.mp hcode
    obtain ⟨front, letter, rfl⟩ := List.eq_nil_or_concat' letters |>.resolve_left
      (List.ne_nil_of_length_pos hleast)
    obtain ⟨digit, more, rfl⟩ := List.exists_cons_of_ne_nil hne
    have hletter : letter.isUpper = true := hupper letter (by simp)
    have hdigit : isDecimalDigit digit = true := hdigits digit (by simp)
    rcases hhyphen with rfl | rfl
    · exact ⟨_, .code hletter hdigit, front, more, by simp⟩
    · exact ⟨_, .hyphenated hletter hdigit, front, more, by simp⟩
  · obtain ⟨blank, digits, rfl, hblank, hdigits, hne⟩ := matches_ticketNumber_iff.mp hticket
    obtain ⟨digit, more, rfl⟩ := List.exists_cons_of_ne_nil hne
    exact ⟨_, .ticket hblank (hdigits digit (by simp)), [], more, rfl⟩

/-- A line feed can stand in a link as its first character alone. -/
theorem exists_cons_of_isLink (h : IsLink stretch) :
    ∃ c more, c :: more = stretch ∧ '\n' ∉ more := by
  have hdigit : ∀ {cs : List Char}, (∀ c ∈ cs, isDecimalDigit c = true) → '\n' ∉ cs :=
    fun hdigits hmem => absurd (hdigits _ hmem) (by decide)
  rcases h with rfl | rfl | hcode | hticket
  · exact ⟨'h', "ttp://".toList, rfl, by decide⟩
  · exact ⟨'h', "ttps://".toList, rfl, by decide⟩
  · obtain ⟨letters, hyphen, digits, rfl, ⟨hupper, hleast, -⟩, hhyphen, hdigits, -⟩ :=
      matches_issueCode_iff.mp hcode
    obtain ⟨letter, more, rfl⟩ := List.exists_cons_of_length_pos hleast
    refine ⟨letter, more ++ (hyphen ++ digits), rfl, ?_⟩
    rw [List.mem_append, List.mem_append, not_or, not_or]
    refine ⟨fun hmem => ?_, ?_, hdigit hdigits⟩
    · exact absurd (hupper _ (List.mem_cons_of_mem _ hmem)) (by decide)
    · rcases hhyphen with rfl | rfl <;> decide
  · obtain ⟨blank, digits, rfl, -, hdigits, -⟩ := matches_ticketNumber_iff.mp hticket
    exact ⟨blank, _, rfl, List.not_mem_cons_of_ne_of_not_mem (by decide) (hdigit hdigits)⟩

theorem occursIn_iff_isLink {text : String} :
    occursIn text = true ↔ ∃ stretch, IsLink stretch ∧ stretch <:+: text.toList := by
  simp only [occursIn, Bool.or_eq_true, occurs_iff, Pattern.occursIn_iff, IsLink, or_and_right,
    exists_or, exists_eq_left, or_assoc]

/-- A text has a link exactly if one of the shortest references stands in it. -/
theorem occursIn_iff {text : String} :
    occursIn text = true ↔ ∃ r, Reference r ∧ r <:+: text.toList := by
  rw [occursIn_iff_isLink]
  constructor
  · rintro ⟨stretch, hlink, hstretch⟩
    obtain ⟨r, hr, hinfix⟩ := exists_reference_of_isLink hlink
    exact ⟨r, hr, hinfix.trans hstretch⟩
  · rintro ⟨r, hr, hinfix⟩
    exact ⟨r, isLink_of_reference hr, hinfix⟩

/-! ### Joined texts -/

/-- A link of joined texts stands in one of them, or begins with the line feed before one. -/
theorem infix_joined_iff (h : IsLink stretch) (first : String) (rest : List String) :
    stretch <:+: (String.intercalate "\n" (first :: rest)).toList ↔
      (∃ text ∈ first :: rest, stretch <:+: text.toList) ∨
        ∃ start, '\n' :: start = stretch ∧ ∃ text ∈ rest, start <+: text.toList := by
  obtain ⟨c, more, rfl, hmore⟩ := exists_cons_of_isLink h
  have hfeed : "\n".toList = ['\n'] := rfl
  rw [String.toList_intercalate, hfeed, List.map_cons, cons_infix_intercalate_iff hmore,
    ← List.map_cons]
  simp only [List.mem_map, exists_exists_and_eq_and]
  refine or_congr_right ⟨?_, ?_⟩
  · rintro ⟨rfl, hstart⟩
    exact ⟨more, rfl, hstart⟩
  · rintro ⟨start, hsplit, hstart⟩
    obtain ⟨rfl, rfl⟩ := List.cons.inj hsplit
    exact ⟨rfl, hstart⟩

theorem reference_feed_cons_iff {start : List Char} :
    Reference ('\n' :: start) ↔ ∃ digit, isDecimalDigit digit = true ∧ ['#', digit] = start := by
  constructor
  · intro h
    generalize hr : '\n' :: start = r at h
    cases h with
    | http => simp at hr
    | https => simp at hr
    | code hletter =>
        obtain ⟨rfl, -⟩ := List.cons.inj hr
        exact absurd hletter (by decide)
    | hyphenated hletter =>
        obtain ⟨rfl, -⟩ := List.cons.inj hr
        exact absurd hletter (by decide)
    | @ticket blank digit hblank hdigit => exact ⟨digit, hdigit, (List.cons.inj hr).2.symm⟩
  · rintro ⟨digit, hdigit, rfl⟩
    exact .ticket (by decide) hdigit

theorem occursIn_joined_iff (first : String) (rest : List String) :
    occursIn (String.intercalate "\n" (first :: rest)) = true ↔
      (∃ text ∈ first :: rest, ∃ r, Reference r ∧ r <:+: text.toList) ∨
        ∃ text ∈ rest, ∃ digit, isDecimalDigit digit = true ∧ ['#', digit] <+: text.toList := by
  rw [occursIn_iff]
  constructor
  · rintro ⟨r, hr, hinfix⟩
    rcases (infix_joined_iff (isLink_of_reference hr) first rest).mp hinfix with
      ⟨text, htext, hinfix⟩ | ⟨start, rfl, text, htext, hstart⟩
    · exact .inl ⟨text, htext, r, hr, hinfix⟩
    · obtain ⟨digit, hdigit, rfl⟩ := reference_feed_cons_iff.mp hr
      exact .inr ⟨text, htext, digit, hdigit, hstart⟩
  · rintro (⟨text, htext, r, hr, hinfix⟩ | ⟨text, htext, digit, hdigit, hstart⟩)
    · exact ⟨r, hr, (infix_joined_iff (isLink_of_reference hr) first rest).mpr
        (.inl ⟨text, htext, hinfix⟩)⟩
    · have hr : Reference ('\n' :: ['#', digit]) :=
        reference_feed_cons_iff.mpr ⟨digit, hdigit, rfl⟩
      exact ⟨_, hr, (infix_joined_iff (isLink_of_reference hr) first rest).mpr
        (.inr ⟨_, rfl, text, htext, hstart⟩)⟩

/-- Joined texts have a link exactly if one of them has a reference or one behind the first begins
with `#` and a digit, so that more texts leave the link there. No link has characters of two texts:
it stands in one of them, or is the line feed before a text and what that text begins with. -/
theorem occursIn_joined (first : String) (rest : List String) :
    (occursIn (String.intercalate "\n" (first :: rest)) = true ↔
      (∃ text ∈ first :: rest, ∃ r, Reference r ∧ r <:+: text.toList) ∨
        ∃ text ∈ rest, ∃ digit, isDecimalDigit digit = true ∧ ['#', digit] <+: text.toList) ∧
    (∀ more, occursIn (String.intercalate "\n" (first :: rest)) = true →
      occursIn (String.intercalate "\n" (first :: (rest ++ more))) = true) ∧
    (∀ stretch, IsLink stretch → stretch <:+: (String.intercalate "\n" (first :: rest)).toList →
      (∃ text ∈ first :: rest, stretch <:+: text.toList) ∨
        ∃ start, '\n' :: start = stretch ∧ ∃ text ∈ rest, start <+: text.toList) := by
  refine ⟨occursIn_joined_iff first rest, fun more hlink => ?_, fun stretch hlink hinfix => ?_⟩
  · rw [occursIn_joined_iff] at hlink ⊢
    refine hlink.imp ?_ ?_
    · rintro ⟨text, htext, hr⟩
      exact ⟨text, List.cons_subset_cons first (List.subset_append_left rest more) htext, hr⟩
    · rintro ⟨text, htext, hstart⟩
      exact ⟨text, List.mem_append_left more htext, hstart⟩
  · exact (infix_joined_iff hlink first rest).mp hinfix

/-- A ticket number that has the line feed for its white space. -/
theorem occursIn_joined_ticket :
    occursIn (String.intercalate "\n" ["# TODO: later", "#12"]) = true ∧
      occursIn (String.intercalate "\n" ["# TODO: later", "#12", "# and more"]) = true ∧
      ∃ start, '\n' :: start = "\n#12".toList ∧ ∃ text ∈ ["#12"], start <+: text.toList := by
  obtain ⟨hiff, hmore, hwhere⟩ := occursIn_joined "# TODO: later" ["#12"]
  have hlink : occursIn (String.intercalate "\n" ["# TODO: later", "#12"]) = true :=
    hiff.mpr (.inr ⟨"#12", List.mem_singleton_self _, '1', by decide, by decide⟩)
  have hdigits : ∀ c ∈ ['1', '2'], isDecimalDigit c = true :=
    List.forall_mem_cons.mpr ⟨by decide, List.forall_mem_singleton.mpr (by decide)⟩
  have hticket : IsLink "\n#12".toList := .inr (.inr (.inr (matches_ticketNumber_iff.mpr
    ⟨'\n', ['1', '2'], rfl, by decide, hdigits, List.cons_ne_nil _ _⟩)))
  refine ⟨hlink, hmore ["# and more"] hlink, ?_⟩
  exact (hwhere _ hticket (by decide)).resolve_left (by decide)

end TodoLint.Link

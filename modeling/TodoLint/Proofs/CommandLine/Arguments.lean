import TodoLint.CommandLine

/-!
The options among the arguments of a command. The codes of all options to ignore rules are
ignored, wherever these options stand before `--` (`ignore_readArguments`).
-/

namespace TodoLint.CommandLine

open Text

/-- The options among the arguments of a command, with their values. -/
def options (settings : List Setting) : List String → List (Setting × String)
  | [] => []
  | "--" :: _ => []
  | argument :: rest =>
      match classify settings argument with
      | .setting setting (some value) => (setting, value) :: options settings rest
      | .setting setting none =>
          match rest with
          | [] => []
          | value :: rest => (setting, value) :: options settings rest
      | _ => options settings rest

/-- The rule codes that an option asks to ignore, divided by commas. -/
def ignoredBy : Setting × String → List Nat
  | (.ignore, value) => (splitAll ',' value.toList).filterMap code?
  | _ => []

section

variable {settings : List Setting} {argument : String} {rest : List String} {setting : Setting}

theorem options_of_path (hne : argument ≠ "--") (h : classify settings argument = .path) :
    options settings (argument :: rest) = options settings rest := by
  simp [options, h]

theorem options_of_some {value : String} (hne : argument ≠ "--")
    (h : classify settings argument = .setting setting (some value)) :
    options settings (argument :: rest) = (setting, value) :: options settings rest := by
  simp [options, h]

theorem options_of_none {value : String} (hne : argument ≠ "--")
    (h : classify settings argument = .setting setting none) :
    options settings (argument :: value :: rest) = (setting, value) :: options settings rest := by
  simp [options, h]

end

theorem filterMap_of_mapM {α β : Type} {f : α → Option β} {xs : List α} {ys : List β}
    (h : xs.mapM f = some ys) : xs.filterMap f = ys := by
  induction xs generalizing ys with
  | nil => simpa using h
  | cons x xs ih =>
      rw [List.mapM_cons] at h
      obtain ⟨y, hy, h⟩ := Option.bind_eq_some_iff.mp h
      obtain ⟨ys', hys, h⟩ := Option.bind_eq_some_iff.mp h
      rw [List.filterMap_cons_some hy, ih hys]
      exact Option.some.inj h

theorem ignore_assign {r r' : Reading} {setting : Setting} {value : String}
    (h : r.assign setting value = .ok r') :
    r'.ignore = r.ignore ++ ignoredBy (setting, value) := by
  unfold Reading.assign at h
  split at h
  case h_1 =>
      split at h
      · cases h
      split at h
      · cases h
      · cases h
        exact (List.append_nil r.ignore).symm
  case h_2 =>
      split at h
      · cases h
      split at h
      · cases h
        exact (List.append_nil r.ignore).symm
      · cases h
  case h_3 =>
      split at h
      · rename_i codes hcodes
        cases h
        rw [ignoredBy, filterMap_of_mapM hcodes]
      · cases h

/-- The ignored codes are those of all options in the order of the arguments. -/
theorem ignore_readArguments {settings : List Setting} {takesPaths : Bool} {r r' : Reading}
    {arguments : List String} (h : readArguments settings takesPaths r arguments = .ok (some r')) :
    r'.ignore = r.ignore ++ (options settings arguments).flatMap ignoredBy := by
  have assigned : ∀ {r : Reading} {setting : Setting} {value : String} {rest : List String},
      (do readArguments settings takesPaths (← r.assign setting value) rest) = .ok (some r') →
      (∀ r, readArguments settings takesPaths r rest = .ok (some r') →
        r'.ignore = r.ignore ++ (options settings rest).flatMap ignoredBy) →
      r'.ignore = r.ignore ++ ((setting, value) :: options settings rest).flatMap ignoredBy := by
    intro r setting value rest h ih
    cases hassign : r.assign setting value with
    | error fault =>
        rw [hassign] at h
        cases h
    | ok next =>
        rw [hassign] at h
        rw [ih next h, ignore_assign hassign, List.flatMap_cons, List.append_assoc]
  -- reading goes on after a path, an option that holds its value, and an option with its value
  -- in the next argument; in every other case it ends
  fun_induction readArguments settings takesPaths r arguments with
  | case1 r | case3 r paths =>
      cases h
      simp [options]
  | case2 | case4 | case5 | case7 | case9 | case10 => cases h
  | case6 r argument rest hne hpath _ ih =>
      rw [options_of_path hne hpath]
      exact ih h
  | case8 r argument rest hne setting value hsetting ih =>
      rw [options_of_some hne hsetting]
      exact assigned h ih
  | case11 r argument hne setting hsetting value rest _ ih =>
      rw [options_of_none hne hsetting]
      exact assigned h ih

/-- A check ignores the codes of all its options. -/
theorem ignore_of_parse {arguments paths : List String} {config : Option String}
    {ignore : List Nat} {format : Format}
    (h : parse arguments = .ok (.run (.check paths config ignore format))) :
    ∃ rest, arguments = "check" :: rest ∧
      ignore = (options Setting.ofCheck rest).flatMap ignoredBy := by
  unfold parse at h
  split at h
  case h_2 rest =>
      cases hread : readArguments Setting.ofCheck true {} rest with
      | error fault =>
          rw [hread] at h
          cases h
      | ok reading =>
          rw [hread] at h
          cases reading with
          | none => cases h
          | some r =>
              cases h
              exact ⟨rest, rfl, ignore_readArguments hread⟩
  case h_3 rest =>
      cases hread : readArguments Setting.ofRules false {} rest with
      | error fault =>
          rw [hread] at h
          cases h
      | ok reading =>
          rw [hread] at h
          cases reading <;> cases h
  case h_4 =>
      split at h
      · cases h
      · split at h <;> cases h
      · cases h
  case h_7 =>
      split at h <;> cases h
  all_goals cases h

end TodoLint.CommandLine

import ServerLaunch.CommandLine.Run
import ServerLaunch.Proofs.Action

/-!
# Words That Both Commands Know

When two commands read the same words alike.

A command knows the options of the server, an option for its help, and one option of its
own. Words that need no option of a command's own are read in the same way by every command,
mistakes included. The one thing in which a mistake can differ is a hint: for a long name
that no option has, the names that are like it are told, and the own option of a command may
be among them. `SharedWords` leaves such names out, so what it describes is wider than a list
of options that both commands know, for it allows for mistakes of every sort.

The words in front of a command are the options of the group. They end where the command is
named, provided that the last of them does not wait for a value, and this is what `GroupWords`
says.

## Main definitions

* `sharedOptions`: The options that every command knows.
* `SharedWords`: Words that every command reads alike.
* `GroupWords`: Words that may stand in front of a command.

## Theorems

* `parseWords_congr`: Words are read alike where the same options are found.
* `parseWords_options`: Shared words are read alike by every command.
* `parseWords_append`: The options of the group end where the command is named.
* `parseWords_mem`: Only known options are read.
* `hasOwn_of_shared`: The own option of a command is not among those that are shared.
-/

namespace ServerLaunch

namespace CommandLine

/-- The options that every command knows. -/
def sharedOptions : List OptionSpec :=
  serverOptions ++ [helpOption]

/-- Words that every command reads alike: none of them is an unknown name that is an option of
    some command's own, or that a command would take for a slip of it. -/
def SharedWords (words : List String) : Prop :=
  ∀ name similar, parseWords true sharedOptions words = .error (.unknown name similar) →
    ∀ c : Command, name ∉ c.ownOption.names ∧
      similarOptions c.options name = similarOptions sharedOptions name

/-- Words that may stand in front of a command: options of the group, the last of which has its
    value, and nothing else. -/
structure GroupWords (words : List String) : Prop where
  complete : ∀ name, parseWords false groupOptions words ≠ .error (.missingValue name)
  noExtra : ∀ p, parseWords false groupOptions words = .ok p → p.extra = []

section Congruence

/-! ## Reading with more options -/

variable {specs specs' : List OptionSpec}

/-- Letters are read alike with more options, unless one of them is found only there. -/
theorem readLetters_congr
    (hknown : ∀ name o, findOption specs name = some o → findOption specs' name = some o)
    {letters : List Char} (hnew : ∀ name similar,
      readLetters specs letters = .error (.unknown name similar) →
        findOption specs name = none → findOption specs' name = none) :
    readLetters specs' letters = readLetters specs letters := by
  induction letters with
  | nil => rfl
  | cons c rest ih =>
      unfold readLetters at hnew ⊢
      dsimp only at hnew ⊢
      cases hfind : findOption specs (String.ofList ['-', c]) with
      | none =>
          rw [hfind] at hnew
          rw [hnew _ _ rfl hfind]
      | some o =>
          rw [hfind] at hnew
          rw [hknown _ _ hfind]
          dsimp only at hnew ⊢
          by_cases hvalue : o.takesValue
          · rw [if_pos hvalue, if_pos hvalue]
          · rw [if_neg hvalue] at hnew
            rw [if_neg hvalue, if_neg hvalue, ih fun name similar h => hnew name similar ?_]
            rw [h]
            rfl

/-- The name in a word is long only if the word is. -/
theorem startsLong_of_name {word name : String} {value : Option String}
    (hsplit : splitAssignment word = (name, value)) (h : startsLong name) : startsLong word := by
  have hname : (splitAssignment word).1.toList = word.toList.takeWhile (· != '=') := by
    unfold splitAssignment
    dsimp only
    split <;> exact String.toList_ofList
  rw [hsplit] at hname
  unfold startsLong at h ⊢
  rw [hname, List.isPrefixOf_iff_prefix] at h
  exact List.isPrefixOf_iff_prefix.mpr (h.trans (List.takeWhile_prefix _))

/-- A word is read alike with more options, unless its name is found only there. -/
theorem readWord_congr
    (hknown : ∀ name o, findOption specs name = some o → findOption specs' name = some o)
    {word : String} (hnew : ∀ name similar,
      readWord specs word = .error (.unknown name similar) →
        (findOption specs name = none → findOption specs' name = none) ∧
          similarOptions specs' name = similarOptions specs name) :
    readWord specs' word = readWord specs word := by
  unfold readWord at hnew ⊢
  rcases hsplit : splitAssignment word with ⟨name, value⟩
  rw [hsplit] at hnew
  dsimp only at hnew ⊢
  -- The name counts only if it is long, and then the word is long as well.
  by_cases hname : startsLong name
  · have hkept (found : Option OptionSpec) : found.filter (fun _ => startsLong name) = found := by
      cases found <;> simp only [Option.filter, hname, if_true]
    rw [hkept, if_pos (startsLong_of_name hsplit hname)] at hnew
    rw [hkept, hkept, if_pos (startsLong_of_name hsplit hname),
      if_pos (startsLong_of_name hsplit hname)]
    cases hfind : findOption specs name with
    | none =>
        rw [hfind] at hnew
        rcases hnew _ _ rfl with ⟨hnone, hsimilar⟩
        rw [hnone hfind, hsimilar]
    | some o => rw [hknown _ _ hfind]
  · have hdropped (found : Option OptionSpec) :
        found.filter (fun _ => startsLong name) = none := by
      cases found <;> simp only [Option.filter, hname, Bool.false_eq_true, if_false]
    rw [hdropped] at hnew
    rw [hdropped, hdropped]
    dsimp only at hnew ⊢
    by_cases hword : startsLong word
    · rw [if_pos hword] at hnew
      rw [if_pos hword, if_pos hword, (hnew _ _ rfl).2]
    · rw [if_neg hword] at hnew
      rw [if_neg hword, if_neg hword]
      exact readLetters_congr hknown fun name similar h => (hnew name similar h).1

/-- Words are read alike with more options, unless one of them is a name that is found only
    there or that would be told other names that are like it. -/
theorem parseWords_congr
    (hknown : ∀ name o, findOption specs name = some o → findOption specs' name = some o)
    {interspersed : Bool} {words : List String} (hnew : ∀ name similar,
      parseWords interspersed specs words = .error (.unknown name similar) →
        (findOption specs name = none → findOption specs' name = none) ∧
          similarOptions specs' name = similarOptions specs name) :
    parseWords interspersed specs' words = parseWords interspersed specs words := by
  have hsame {word : String} {reading : WordReading} (hread : readWord specs word = .ok reading) :
      readWord specs' word = .ok reading := by
    rw [← hread]
    refine readWord_congr hknown fun name similar h => ?_
    rw [hread] at h
    cases h
  fun_induction parseWords interspersed specs words with
  | case1 => rw [parseWords]
  | case2 word rest hend => rw [parseWords, if_pos hend]
  | case3 word rest hend hoption fault hread =>
      have hfault : readWord specs' word = .error fault := by
        rw [← hread]
        refine readWord_congr hknown fun name similar h => hnew name similar ?_
        rw [hread] at h
        rw [Except.error.inj h]
      rw [parseWords, if_neg hend, if_pos hoption, hfault]
  | case4 word rest hend hoption complete hread ih =>
      rw [parseWords, if_neg hend, if_pos hoption, hsame hread]
      dsimp only
      rw [ih fun name similar h => hnew name similar (except_map_eq_error.mpr h)]
  | case5 word hend hoption complete o name hread =>
      rw [parseWords, if_neg hend, if_pos hoption, hsame hread]
  | case6 word hend hoption complete o name hread value rest ih =>
      rw [parseWords, if_neg hend, if_pos hoption, hsame hread]
      dsimp only
      rw [ih fun name similar h => hnew name similar (except_map_eq_error.mpr h)]
  | case7 word rest hend hoption hinterspersed ih =>
      rw [parseWords, if_neg hend, if_neg hoption, if_pos hinterspersed]
      rw [ih fun name similar h => hnew name similar (except_map_eq_error.mpr h)]
  | case8 word rest hend hoption hinterspersed =>
      rw [parseWords, if_neg hend, if_neg hoption, if_neg hinterspersed]

end Congruence

section Shared

/-! ## Words of a command -/

/-- A command finds what is shared. -/
theorem findOption_options (c : Command) {name : String} {o : OptionSpec}
    (h : findOption sharedOptions name = some o) : findOption c.options name = some o := by
  unfold findOption sharedOptions at h
  unfold findOption Command.options
  rw [List.find?_append] at h ⊢
  cases hserver : serverOptions.find? fun o => o.names.contains name with
  | some o' =>
      rw [hserver] at h
      exact h
  | none =>
      rw [hserver, Option.none_or] at h
      rw [Option.none_or]
      -- What is left is the option for help, and that is none of a command's own names.
      have hhelp : helpOption.names.contains name := by
        have ho : o = helpOption := List.mem_singleton.mp (List.mem_of_find?_eq_some h)
        rw [← ho]
        exact List.find?_some (p := fun o : OptionSpec => o.names.contains name) h
      rw [List.find?_cons_of_neg, h]
      rw [List.mem_singleton.mp (List.contains_iff_mem.mp hhelp)]
      cases c <;> decide

/-- A command finds nothing but what is shared and its own option. -/
theorem findOption_options_eq_none (c : Command) {name : String}
    (h : findOption sharedOptions name = none) (hname : name ∉ c.ownOption.names) :
    findOption c.options name = none := by
  unfold findOption sharedOptions at h
  unfold findOption Command.options
  rw [List.find?_eq_none] at h ⊢
  intro o ho
  simp only [List.mem_append, List.mem_cons, List.not_mem_nil, or_false] at h ho
  rcases ho with ho | rfl | ho
  · exact h o (Or.inl ho)
  · rwa [List.contains_iff_mem]
  · exact h o (Or.inr ho)

/-- Shared words are read alike by every command. -/
theorem parseWords_options (c : Command) {words : List String} (h : SharedWords words) :
    parseWords true c.options words = parseWords true sharedOptions words :=
  parseWords_congr (fun _ _ => findOption_options c) fun name similar hfault =>
    ⟨fun hnone => findOption_options_eq_none c hnone (h name similar hfault c).1,
      (h name similar hfault c).2⟩

/-- What a word amounts to is made of known options. -/
def WordReading.Within (specs : List OptionSpec) (r : WordReading) : Prop :=
  (∀ q ∈ r.complete, q.1 ∈ specs) ∧ ∀ q, r.open? = some q → q.1 ∈ specs

theorem readLong_within {specs : List OptionSpec} {o : OptionSpec} {name : String}
    {value : Option String} {r : WordReading} (ho : o ∈ specs)
    (h : readLong o name value = .ok r) : r.Within specs := by
  have hcomplete (v : Option String) : WordReading.Within specs ⟨[(o, v)], none⟩ :=
    ⟨List.forall_mem_singleton.mpr ho, fun _ hq => nomatch hq⟩
  unfold readLong at h
  split at h
  · split at h <;> cases h
    · exact hcomplete _
    · refine ⟨fun _ hq => absurd hq List.not_mem_nil, ?_⟩
      rintro _ ⟨⟩
      exact ho
  · split at h <;> cases h
    exact hcomplete _

theorem readLetters_within {specs : List OptionSpec} {letters : List Char} {r : WordReading}
    (h : readLetters specs letters = .ok r) : r.Within specs := by
  induction letters generalizing r with
  | nil =>
      cases h
      exact ⟨fun _ hq => absurd hq List.not_mem_nil, fun _ hq => nomatch hq⟩
  | cons c rest ih =>
      unfold readLetters at h
      dsimp only at h
      split at h
      · cases h
      · next o hfind =>
          have ho : o ∈ specs := List.mem_of_find?_eq_some hfind
          split at h
          · split at h <;> cases h
            · refine ⟨fun _ hq => absurd hq List.not_mem_nil, ?_⟩
              rintro _ ⟨⟩
              exact ho
            · exact ⟨List.forall_mem_singleton.mpr ho, fun _ hq => nomatch hq⟩
          · rcases except_map_eq_ok.mp h with ⟨r', hrest, rfl⟩
            exact ⟨List.forall_mem_cons.mpr ⟨ho, (ih hrest).1⟩, (ih hrest).2⟩

theorem readWord_within {specs : List OptionSpec} {word : String} {r : WordReading}
    (h : readWord specs word = .ok r) : r.Within specs := by
  unfold readWord at h
  rcases splitAssignment word with ⟨name, value⟩
  dsimp only at h
  split at h
  · next o hfind =>
      exact readLong_within (List.mem_of_find?_eq_some (Option.filter_eq_some_iff.mp hfind).1) h
  · split at h
    · cases h
    · exact readLetters_within h

/-- Only known options are read. -/
theorem parseWords_mem {interspersed : Bool} {specs : List OptionSpec} {words : List String}
    {p : ParsedWords} (h : parseWords interspersed specs words = .ok p) :
    ∀ q ∈ p.options, q.1 ∈ specs := by
  fun_induction parseWords interspersed specs words generalizing p with
  | case4 word rest hend hoption complete hread ih =>
      rcases except_map_eq_ok.mp h with ⟨p', hrest, rfl⟩
      exact List.forall_mem_append.mpr ⟨(readWord_within hread).1, ih hrest⟩
  | case6 word hend hoption complete o name hread value rest ih =>
      rcases except_map_eq_ok.mp h with ⟨p', hrest, rfl⟩
      have ho : o ∈ specs := (readWord_within hread).2 _ rfl
      simp only [ParsedWords.after, List.forall_mem_append, List.forall_mem_singleton]
      exact ⟨⟨(readWord_within hread).1, ho⟩, ih hrest⟩
  | case7 word rest hend hoption hinterspersed ih =>
      rcases except_map_eq_ok.mp h with ⟨p', hrest, rfl⟩
      exact fun q hq => ih hrest q hq
  | case1 | case2 | case8 =>
      cases h
      exact fun _ hq => absurd hq List.not_mem_nil
  | case3 | case5 => cases h

/-- The own option of a command is not among those that are shared. -/
theorem hasOwn_of_shared (c : Command) {words : List String} {p : ParsedWords}
    (h : parseWords true sharedOptions words = .ok p) : c.hasOwn p = false := by
  -- There are few options, so that none of them has the name is checked one by one.
  have hforeign : ∀ o ∈ sharedOptions, ∀ name ∈ c.ownOption.names,
      o.names.contains name = false := by
    cases c <;> decide
  refine List.any_eq_false.mpr fun name hname => Bool.eq_false_iff.mp ?_
  refine List.any_eq_false.mpr fun q hq => Bool.eq_false_iff.mp ?_
  exact hforeign q.1 (parseWords_mem h q hq) name hname

end Shared

section Group

/-! ## Words of the group -/

/-- The name of a command ends the options of the group: they are read as if they stood
    alone, unless the last of them waits for a value. -/
theorem parseWords_append {specs : List OptionSpec} {words rest : List String} {name : String}
    (hend : ¬ (name == "--") = true) (hoption : ¬ isOptionWord name = true)
    (hcomplete : ∀ n, parseWords false specs words ≠ .error (.missingValue n))
    (hextra : ∀ p, parseWords false specs words = .ok p → p.extra = []) :
    parseWords false specs (words ++ name :: rest)
      = (parseWords false specs words).map fun p => { p with extra := name :: rest } := by
  have hmap {r : Except ParseFault ParsedWords} (options : List (OptionSpec × Option String)) :
      (r.map fun p => { p with extra := name :: rest }).map (ParsedWords.after options)
        = (r.map (ParsedWords.after options)).map fun p : ParsedWords =>
          { p with extra := name :: rest } := by
    cases r <;> rfl
  fun_induction parseWords false specs words with
  | case1 =>
      rw [List.nil_append, parseWords, if_neg hend, if_neg hoption, if_neg Bool.false_ne_true]
      rfl
  | case2 word words hword =>
      have hnone : words = [] := hextra _ rfl
      rw [List.cons_append, parseWords, if_pos hword, hnone]
      rfl
  | case3 word words hword hoption' fault hread =>
      rw [List.cons_append, parseWords, if_neg hword, if_pos hoption', hread]
      rfl
  | case4 word words hword hoption' complete hread ih =>
      rw [List.cons_append, parseWords, if_neg hword, if_pos hoption', hread]
      dsimp only
      rw [ih (fun n hn => hcomplete n (except_map_eq_error.mpr hn)) fun p hp => ?_, hmap]
      exact hextra (p.after _) (except_map_eq_ok.mpr ⟨p, hp, rfl⟩)
  -- The last option waits for a value, which the name of the command would be taken for.
  | case5 word hword hoption' complete o n hread => exact absurd rfl (hcomplete n)
  | case6 word hword hoption' complete o n hread value words ih =>
      rw [List.cons_append, List.cons_append, parseWords, if_neg hword, if_pos hoption', hread]
      dsimp only
      rw [ih (fun n hn => hcomplete n (except_map_eq_error.mpr hn)) fun p hp => ?_, hmap]
      exact hextra (p.after _) (except_map_eq_ok.mpr ⟨p, hp, rfl⟩)
  | case7 word words hword hoption' hinterspersed => exact absurd hinterspersed Bool.false_ne_true
  | case8 word words hword hoption' => exact absurd (hextra _ rfl) (List.cons_ne_nil _ _)

/-- What the options of the group come to, with other words behind them. -/
def GroupReading.withWords (words : List String) : GroupReading → GroupReading
  | .atOnce role => .atOnce role
  | .config path isVerbose _ => .config path isVerbose words

/-- A command behind the options of the group does not change what they come to. -/
theorem readGroup_append {globals : List String} (h : GroupWords globals) (c : Command)
    (words : List String) (host : Host) :
    readGroup host (globals ++ c.name :: words)
      = (readGroup host globals).map (.withWords (c.name :: words)) := by
  have hparse : parseWords false groupOptions (globals ++ c.name :: words)
      = (parseWords false groupOptions globals).map fun p => { p with extra := c.name :: words } :=
    parseWords_append (by cases c <;> decide) (by cases c <;> decide) h.complete h.noExtra
  unfold readGroup
  rw [hparse]
  cases parseWords false groupOptions globals with
  | error fault => rfl
  | ok p =>
      -- The extra words count neither for what is shown at once nor for the configuration.
      have heager : ParsedWords.eager? { p with extra := c.name :: words } = p.eager? := rfl
      have hconfig : readConfigOption host { p with extra := c.name :: words }
        = readConfigOption host p := rfl
      dsimp only [Except.map]
      rw [heager, hconfig]
      cases p.eager? with
      | some role => rfl
      | none => cases readConfigOption host p <;> rfl

end Group

end CommandLine

end ServerLaunch

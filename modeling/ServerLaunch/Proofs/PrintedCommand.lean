import ServerLaunch.CommandLine.Run
import ServerLaunch.Proofs.Action
import ServerLaunch.Proofs.LaunchCommand
import ServerLaunch.Proofs.ReadBack
import ServerLaunch.Proofs.ShellWords

/-!
# The Printed Command

That a command can be read from the line that is printed for it.

There are two forms. The one for programs is a list of texts in JSON, in which everything that is
not printable ASCII is written as code units; so there is no control sequence in it, and nothing
is lost on the way to the user. The one for people is a line for a shell, which keeps every
character as it is, and what is printed is the line without the control sequences in it. It is
read as the command if there is none. One can begin in a word and go on in the next, since a
quote and a blank may stand in it.

## Main definitions

* `Json.IsPrintable`: Characters that ASCII has a printable form for.

## Theorems

* `Json.isPrintable_asciiListChars`: The form for programs is printable ASCII.
* `Json.parseChars_asciiListChars`: The form for programs is read as the list.
* `CommandLine.runArgs_printed`: What is printed is read as the command.
* `CommandLine.runArgs_printed_colored`: A command with a control sequence in it.
-/

namespace ServerLaunch

namespace Json

/-- Characters that ASCII has a printable form for. -/
def IsPrintable (c : Char) : Prop :=
  32 ≤ c.toNat ∧ c.toNat < 127

instance (c : Char) : Decidable (IsPrintable c) :=
  inferInstanceAs (Decidable (_ ∧ _))

theorem isPrintable_hex (width n : Nat) : ∀ c ∈ Text.hex width n, IsPrintable c := by
  induction width generalizing n with
  | zero => exact List.forall_mem_nil _
  | succ width ih =>
      have hdigit : ∀ k : Fin 16, IsPrintable (Text.hexDigit k.val) := by decide
      exact List.forall_mem_append.mpr ⟨ih _, List.forall_mem_singleton.mpr
        (hdigit ⟨n % 16, Nat.mod_lt n (by decide)⟩)⟩

theorem isPrintable_unitEscape (n : Nat) : ∀ c ∈ unitEscape n, IsPrintable c :=
  List.forall_mem_cons.mpr ⟨by decide, List.forall_mem_cons.mpr ⟨by decide, isPrintable_hex 4 n⟩⟩

theorem isPrintable_behindSlash {e : Char} (he : IsPrintable e) :
    ∀ d ∈ ['\\', e], IsPrintable d :=
  List.forall_mem_cons.mpr ⟨by decide, List.forall_mem_singleton.mpr he⟩

theorem isPrintable_controlEscape (c : Char) : ∀ d ∈ controlEscape c, IsPrintable d := by
  unfold controlEscape
  split
  case h_6 => exact isPrintable_unitEscape _
  all_goals exact isPrintable_behindSlash (by decide)

theorem isPrintable_codeUnits (c : Char) : ∀ d ∈ codeUnits c, IsPrintable d := by
  unfold codeUnits
  simp only
  split
  · exact isPrintable_unitEscape _
  · exact List.forall_mem_append.mpr ⟨isPrintable_unitEscape _, isPrintable_unitEscape _⟩

theorem isPrintable_asciiEscapeChar (c : Char) : ∀ d ∈ asciiEscapeChar c, IsPrintable d := by
  unfold asciiEscapeChar
  split
  · next h =>
      refine isPrintable_behindSlash ?_
      rcases Bool.or_eq_true_iff.mp h with h | h
      · rw [beq_iff_eq.mp h]
        decide
      · rw [beq_iff_eq.mp h]
        decide
  · split
    · exact isPrintable_controlEscape c
    · split
      · exact List.forall_mem_singleton.mpr ⟨by omega, by omega⟩
      · exact isPrintable_codeUnits c

theorem forall_mem_intercalate {P : Char → Prop} {sep : List Char} {pieces : List (List Char)}
    (hsep : ∀ c ∈ sep, P c) (h : ∀ piece ∈ pieces, ∀ c ∈ piece, P c) :
    ∀ c ∈ sep.intercalate pieces, P c := by
  induction pieces with
  | nil => exact List.forall_mem_nil _
  | cons piece pieces ih =>
      have hpiece := h piece List.mem_cons_self
      have hothers := ih fun other hother => h other (List.mem_cons_of_mem _ hother)
      rcases pieces with _ | ⟨next, pieces⟩
      · rwa [List.intercalate_singleton]
      · rw [List.intercalate_cons_cons]
        exact List.forall_mem_append.mpr ⟨List.forall_mem_append.mpr ⟨hpiece, hsep⟩, hothers⟩

theorem isPrintable_asciiTextToken (cs : List Char) : ∀ c ∈ asciiTextToken cs, IsPrintable c := by
  have hquote : ∀ c ∈ ['"'], IsPrintable c := List.forall_mem_singleton.mpr (by decide)
  exact List.forall_mem_append.mpr ⟨hquote, List.forall_mem_append.mpr
    ⟨List.forall_mem_flatMap.mpr fun c _ => isPrintable_asciiEscapeChar c, hquote⟩⟩

/-- A list in the ASCII form is printable ASCII on one line. -/
theorem isPrintable_asciiListChars (texts : List (List Char)) :
    ∀ c ∈ asciiListChars texts, IsPrintable c := by
  have hopening : ∀ c ∈ ['['], IsPrintable c := List.forall_mem_singleton.mpr (by decide)
  have hclosing : ∀ c ∈ [']'], IsPrintable c := List.forall_mem_singleton.mpr (by decide)
  have hsep : ∀ c ∈ [',', ' '], IsPrintable c :=
    List.forall_mem_cons.mpr ⟨by decide, List.forall_mem_singleton.mpr (by decide)⟩
  have htokens : ∀ token ∈ texts.map asciiTextToken, ∀ c ∈ token, IsPrintable c :=
    List.forall_mem_map.mpr fun text _ => isPrintable_asciiTextToken text
  exact List.forall_mem_append.mpr ⟨hopening, List.forall_mem_append.mpr
    ⟨forall_mem_intercalate hsep htokens, hclosing⟩⟩

/-- A list in the ASCII form is read as the list. -/
theorem parseChars_asciiListChars (command : List String) :
    parseChars (asciiListChars (command.map String.toList) ++ ['\n']) =
      .ok (.list (command.map Value.text)) := by
  have htokens : List.Forall₂ (ReadsBack (depthLimit - 1))
      ((command.map String.toList).map asciiTextToken) (command.map Value.text) := by
    rw [List.map_map, List.forall₂_map_left_iff, List.forall₂_map_right_iff, List.forall₂_same]
    exact fun word _ => readsBack_text spells_asciiEscapeChar word
  have hgap : ∀ c ∈ [' '], isBlank c = true := List.forall_mem_singleton.mpr rfl
  have hlist := ReadsBack.list hgap htokens
  refine parseChars_of_readsBack hlist ?_ (List.forall_mem_singleton.mpr rfl)
  intro c hc
  rw [← Option.some.inj hc]
  decide

end Json

namespace CommandLine

/-- A line of printable ASCII from which a reader of JSON gets the words. -/
def ReadsAsJson (line : String) (command : List String) : Prop :=
  (∃ body, line = body ++ "\n" ∧ ∀ c ∈ body.toList, Json.IsPrintable c) ∧
    Json.parse line = .ok (.list (command.map .text))

/-- A line from which a shell gets the words. -/
def ReadsAsWords (line : String) (command : List String) : Prop :=
  ShellWord.splitWords? line.toList = some (command.map String.toList)

theorem toList_commandLine_json (command : List String) :
    (commandLine true command).toList =
      Json.asciiListChars (command.map String.toList) ++ ['\n'] := by
  rw [commandLine, if_pos rfl, String.toList_append, Json.asciiList, String.toList_ofList]
  rfl

theorem toList_commandLine_shell (command : List String) :
    (commandLine false command).toList =
      ShellWord.joinChars (command.map String.toList) ++ ['\n'] := by
  rw [commandLine, if_neg Bool.false_ne_true, String.toList_append, ShellWord.joinWords,
    String.toList_ofList]
  rfl

/-- No control sequence is lost from the form for programs, since there is none in it. -/
theorem plain_commandLine_json (command : List String) :
    ControlSequence.plain (commandLine true command) = commandLine true command := by
  have hescape : ControlSequence.escape ∉ (commandLine true command).toList := by
    rw [toList_commandLine_json, List.mem_append]
    rintro (h | h)
    · exact absurd (Json.isPrintable_asciiListChars _ _ h).1 (by decide)
    · exact absurd h (by decide)
  rw [ControlSequence.plain, ControlSequence.dropSequences_of_noEscape _ hescape,
    String.ofList_toList]

theorem readsAsJson_commandLine (command : List String) :
    ReadsAsJson (commandLine true command) command := by
  refine ⟨⟨Json.asciiList command, rfl, fun c hc => ?_⟩, ?_⟩
  · rw [Json.asciiList, String.toList_ofList] at hc
    exact Json.isPrintable_asciiListChars _ c hc
  · rw [Json.parse, toList_commandLine_json, Json.parseChars_asciiListChars]

/-- What is printed for a shell is read as the command if the line has no control sequence. -/
theorem readsAsWords_plain_iff (command : List String) :
    ReadsAsWords (ControlSequence.plain (commandLine false command)) command ↔
      ¬ ControlSequence.Occurs (commandLine false command).toList := by
  rw [ReadsAsWords, ControlSequence.plain, String.toList_ofList, toList_commandLine_shell]
  exact ShellWord.splitWords?_dropSequences_iff _

theorem not_occurs_commandLine {command : List String}
    (h : ∀ word ∈ command, ControlSequence.escape ∉ word.toList) :
    ¬ ControlSequence.Occurs (commandLine false command).toList := by
  rw [toList_commandLine_shell]
  exact ShellWord.not_occurs_joinChars (List.forall_mem_map.mpr h)

/-- What is printed for a command is read as the command. The form for programs is one line of
    printable ASCII from which a reader of JSON gets the words. From the form for people a shell
    gets the words if there is no control sequence in the line, and only then, for it is printed
    without them. Where no word has an escape there is none. -/
theorem runArgs_printed {context : LaunchContext} {o : ServerOptions} {asJson : Bool}
    {w w' : World} {code : Int} (h : runArgs context o asJson w = (.ok (.ok code), w')) :
    ∃ handle w₁ line, prepare context o false w = (.ok (.ok handle), w₁) ∧
      w' = w₁.record (.printed line) ∧
      (asJson = true → ReadsAsJson line handle.command) ∧
      (asJson = false →
        (ReadsAsWords line handle.command ↔
          ¬ ControlSequence.Occurs (commandLine false handle.command).toList) ∧
        ((∀ word ∈ handle.command, ControlSequence.escape ∉ word.toList) →
          ReadsAsWords line handle.command)) := by
  unfold runArgs at h
  rcases Act.bind_eq_ok.mp h with ⟨prepared, w₁, hprepare, h⟩
  cases prepared with
  | error fault => cases h
  | ok handle =>
      refine ⟨handle, w₁, _, hprepare, (Prod.mk.inj h).2.symm, ?_, ?_⟩
      · rintro rfl
        rw [plain_commandLine_json]
        exact readsAsJson_commandLine handle.command
      · rintro rfl
        have hiff := readsAsWords_plain_iff handle.command
        exact ⟨hiff, fun hnone => hiff.mpr (not_occurs_commandLine hnone)⟩

/-- A context with no settings and a log that is kept. -/
def quietContext : LaunchContext :=
  { settings := default, logger := .logger .journal, cwd := ⟨.single, []⟩ }

/-- Options with an address that a terminal would show in red. -/
def coloredOptions : ServerOptions :=
  { node := some ⟨.relative, ["node"]⟩, mainScript := some ⟨.relative, ["main.js"]⟩,
    address := some "\x1b[31mred" }

/-- The command with the address. -/
def coloredCommand : List String :=
  ["node", "/main.js", "--port", "4723", "--address", "\x1b[31mred"]

theorem command_of_prepare_colored {handle : Handle} {w : World}
    (h : prepare quietContext coloredOptions false .twoFiles = (.ok (.ok handle), w)) :
    handle.command = coloredCommand := by
  have hknown : prepare quietContext coloredOptions false .twoFiles = (.ok (.ok _), _) := rfl
  rw [Except.ok.inj (Except.ok.inj (Prod.mk.inj (h.symm.trans hknown)).1)]
  decide +kernel

/-- The address is printed in both forms, but only one of them is read as the command. -/
theorem runArgs_printed_colored :
    ∃ (line json : String) (w₁ w₂ : World),
      runArgs quietContext coloredOptions false .twoFiles =
        (.ok (.ok 0), w₁.record (.printed line)) ∧
      runArgs quietContext coloredOptions true .twoFiles =
        (.ok (.ok 0), w₂.record (.printed json)) ∧
      ¬ ReadsAsWords line coloredCommand ∧ ReadsAsJson json coloredCommand := by
  have hrun (asJson : Bool) : runArgs quietContext coloredOptions asJson .twoFiles =
      (.ok (.ok 0), (runArgs quietContext coloredOptions asJson .twoFiles).2) := by
    cases asJson <;> rfl
  rcases runArgs_printed (hrun false) with ⟨handle, w₁, line, hprepare, hw₁, _, hwords⟩
  rcases runArgs_printed (hrun true) with ⟨handle', w₂, json, hprepare', hw₂, hjson, _⟩
  have hread := hwords rfl
  have hreadJson := hjson rfl
  rw [command_of_prepare_colored hprepare] at hread
  rw [command_of_prepare_colored hprepare'] at hreadJson
  have hoccurs : ControlSequence.Occurs (commandLine false coloredCommand).toList :=
    ⟨['\x1b', '[', '3', '1', 'm', 'r', 'e', 'd', '\'', '\n'], by decide +kernel, by decide⟩
  exact ⟨line, json, w₁, w₂, by rw [hrun false, hw₁], by rw [hrun true, hw₂],
    fun hline => hread.1.mp hline hoccurs, hreadJson⟩

end CommandLine

end ServerLaunch

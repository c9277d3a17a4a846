import ServerLaunch.Proofs.FlagRouting
import ServerLaunch.Proofs.IntegerText

/-!
# Flags and Setters

That a flag with a field of its own is another way to call the setter of that field.

A caller may give a builder its port, its address or its log file by a setter or by one of two
flags, and may name the flag by its text or by an object that knows the text. Which way is
taken must not matter, neither for what is set nor for what is refused. `taken` compares calls
by the state that they lead to, or by their being refused, and leaves out what a refusal says,
which is where the ways differ.

A refused call changes nothing, since all that it does before is to check; this is read off the
steps of the calls, which are equal to adjusting a builder at the end. What is refused can be told
from the flag and its value: a port that spells no number that is not negative, and a base path that
is blank.

## Main definitions

* `Builder.taken`: The state that a call leads to, unless it is refused.
* `Builder.setPortReading`: The setter of the port, for a text that is read first.

## Theorems

* `sanitizeBasePath_isOk_iff`: Which base paths are refused.
* `Builder.addArgument_error`: What a refusal says.
* `Builder.perform_adjusts`: Calls that may be refused change a builder at the end.
* `Builder.flags_set_fields`: Flags and setters.
-/

namespace ServerLaunch

open Act World

/-- A computation that does not give a value fails. -/
theorem exists_error_iff {ε α : Type} {r : Except ε α} :
    (∃ e, r = .error e) ↔ ¬ ∃ x, r = .ok x := by
  cases r with
  | error e => exact iff_of_true ⟨e, rfl⟩ (by rintro ⟨x, h⟩; cases h)
  | ok x => exact iff_of_false (by rintro ⟨e, h⟩; cases h) fun h => h ⟨x, rfl⟩

theorem Text.trim_eq_nil_iff {p : Char → Bool} {cs : List Char} :
    trim p cs = [] ↔ ∀ c ∈ cs, p c := by
  constructor
  · intro hnil
    rcases exists_trim p cs with ⟨before, after, hsplit, hbefore, hafter⟩
    rw [hnil, List.nil_append] at hsplit
    rw [hsplit]
    exact List.forall_mem_append.mpr ⟨hbefore, hafter⟩
  · intro hall
    unfold trim trimEnd trimStart
    rw [List.dropWhile_eq_nil_iff.mpr hall]
    rfl

/-- A base path is refused if it is blank, and not otherwise. -/
theorem sanitizeBasePath_isOk_iff {text : String} :
    (∃ path, sanitizeBasePath (some text) = .ok path) ↔ Text.IsBlankText text = false := by
  have hempty : (Text.trimmed text).toList.isEmpty ↔ Text.IsBlankText text := by
    rw [Text.trimmed, String.toList_ofList, List.isEmpty_iff, Text.trim_eq_nil_iff,
      Text.IsBlankText, List.all_eq_true]
  unfold sanitizeBasePath
  dsimp only [Option.getD_some]
  by_cases hblank : (Text.trimmed text).toList.isEmpty
  · rw [if_pos hblank, hempty.mp hblank]
    exact iff_of_false (by rintro ⟨_, h⟩; cases h) Bool.noConfusion
  · rw [if_neg hblank]
    have hvisible : Text.IsBlankText text = false :=
      Bool.eq_false_iff.mpr fun h => hblank (hempty.mpr h)
    refine iff_of_true ?_ hvisible
    split
    · exact ⟨_, rfl⟩
    · exact ⟨_, rfl⟩

namespace Builder

variable {b : Builder} {s t : Builder × World} {flag : FlagName} {value : Option String}

/-- The state that a call leads to, unless it is refused. -/
def taken (a : BuilderAct Unit) (s : Builder × World) : Option (Builder × World) :=
  match a s with
  | (.ok _, t) => some t
  | (.error _, _) => none

theorem taken_adjust (f : Builder → Except Failure Builder) (s : Builder × World) :
    taken (adjust f) s = (f s.1).toOption.map fun b => (b, s.2) := by
  unfold taken
  rw [adjust_apply]
  cases f s.1 <;> rfl

/-- A refused change changes nothing. -/
theorem adjust_error {f : Builder → Except Failure Builder} {e : Failure}
    (h : adjust f s = (.error e, t)) : t = s ∧ f s.1 = .error e := by
  rw [adjust_apply] at h
  cases hf : f s.1 with
  | ok b' =>
      rw [hf] at h
      cases h
  | error e' =>
      rw [hf] at h
      cases h
      exact ⟨rfl, rfl⟩

/-- Sets the port to the number that a text has to spell. -/
def setPortReading (text : String) : BuilderAct Unit := do
  let port ← Act.ofExcept (Failure.readInteger text)
  (BuilderCall.port port).perform

theorem setPortText_toOption (b : Builder) (name text : String) :
    ((b.setPortText name text).mapError Failure.launch).toOption
      = (Failure.readInteger text).toOption.bind fun port =>
        ((b.setPort port).mapError Failure.launch).toOption := by
  unfold setPortText Failure.readInteger
  cases Numeral.readInteger text <;> rfl

/-- A text that is no number is refused before the setter is called. -/
theorem taken_setPortReading (text : String) (s : Builder × World) :
    taken (setPortReading text) s = ((Failure.readInteger text).toOption.bind fun port =>
      ((s.1.setPort port).mapError Failure.launch).toOption).map fun b => (b, s.2) := by
  cases hread : Failure.readInteger text with
  | error e =>
      unfold taken setPortReading
      rw [hread, bind_error (ofExcept_apply _ s)]
      rfl
  | ok port =>
      have hset : taken (setPortReading text) s = taken (BuilderCall.port port).perform s := by
        unfold taken setPortReading
        rw [hread, bind_ok (ofExcept_apply _ s)]
      rw [hset, BuilderCall.perform, usePort_eq]
      exact taken_adjust _ s

theorem addArgument_port {name : String} (hname : name ∈ ["-p", "--port"]) (text : String) :
    b.addArgument (.text name) (some text) = b.setPortText name text := by
  have hport : isPortFlag name := by
    revert name
    decide
  simp only [addArgument, FlagName.argument, hport, if_true]

theorem addArgument_address {name : String} (hname : name ∈ ["-a", "--address"]) (text : String) :
    b.addArgument (.text name) (some text) = .ok (b.setAddress (some text)) := by
  have hkind : isPortFlag name = false ∧ isAddressFlag name = true := by
    revert name
    decide
  simp only [addArgument, FlagName.argument, hkind.1, hkind.2, if_true, Bool.false_eq_true,
    if_false]

theorem addArgument_logFile {name : String} (hname : name ∈ ["-g", "--log"]) (text : String) :
    b.addArgument (.text name) (some text) = .ok (b.setLogFile (some (Path.ofString text))) := by
  have hkind : isPortFlag name = false ∧ isAddressFlag name = false ∧ isLogFlag name = true := by
    revert name
    decide
  simp only [addArgument, FlagName.argument, hkind.1, hkind.2.1, hkind.2.2, if_true,
    Bool.false_eq_true, if_false]

/-- Whatever is refused is an argument that is invalid. -/
theorem addArgument_error {e : LaunchError} (h : b.addArgument flag value = .error e) :
    e.kind = .invalidArgument := by
  cases value with
  | none => cases h
  | some text =>
      simp only [addArgument] at h
      split at h
      · -- A port is refused for what it spells or for spelling nothing.
        unfold setPortText setPort at h
        split at h
        · split at h
          · cases h
            rfl
          · cases h
        · cases h
          rfl
      · split at h
        · cases h
        · split at h
          · cases h
          · split at h
            · rw [except_map_eq_error] at h
              unfold sanitizeBasePath at h
              dsimp only at h
              split at h
              · cases h
                rfl
              · split at h
                · cases h
                · cases h
            · cases h

theorem isPortFlag_iff {name : String} : isPortFlag name ↔ name ∈ ["-p", "--port"] := by
  rw [isPortFlag, Bool.or_eq_true, beq_iff_eq, beq_iff_eq, or_comm]
  simp only [List.mem_cons, List.not_mem_nil, or_false]

/-- A flag is refused for what is given to it: to a port something that spells no number or a
    negative one, to the base path nothing that can be seen. -/
theorem addArgument_isError_iff :
    (∃ e, b.addArgument flag value = .error e) ↔ ∃ text, value = some text ∧
      (flag.argument ∈ ["-p", "--port"] ∧ (¬ ∃ n : Nat, Numeral.IntegerText text n) ∨
        flag.argument = "--base-path" ∧ Text.IsBlankText text) := by
  have hspelled (text : String) : (∃ port, Numeral.readInteger text = .ok port ∧ 0 ≤ port) ↔
      ∃ n : Nat, Numeral.IntegerText text n := by
    constructor
    · rintro ⟨port, hread, hport⟩
      rcases Int.eq_ofNat_of_zero_le hport with ⟨n, rfl⟩
      exact ⟨n, Numeral.readInteger_eq_ok_iff.mp hread⟩
    · rintro ⟨n, hn⟩
      exact ⟨n, Numeral.readInteger_eq_ok_iff.mpr hn, Int.natCast_nonneg n⟩
  rw [exists_error_iff, addArgument_isOk_iff]
  constructor
  · intro hrefused
    by_contra hnone
    refine hrefused ⟨fun hport text hvalue => ?_, fun hflag text hvalue => ?_⟩
    · by_contra hspells
      rw [hspelled] at hspells
      exact hnone ⟨text, hvalue, Or.inl ⟨isPortFlag_iff.mp hport, hspells⟩⟩
    · rw [sanitizeBasePath_isOk_iff]
      by_contra hblank
      rw [Bool.not_eq_false] at hblank
      exact hnone ⟨text, hvalue, Or.inr ⟨hflag, hblank⟩⟩
  · rintro ⟨text, rfl, ⟨hname, hno⟩ | ⟨hname, hblank⟩⟩ haccept
    · exact hno ((hspelled text).mp (haccept.port (isPortFlag_iff.mpr hname) text rfl))
    · rw [sanitizeBasePath_isOk_iff.mp (haccept.basePath hname text rfl)] at hblank
      cases hblank

/-- The failure of a call with a flag is the refusal of the flag. -/
theorem perform_argument_error {e : Failure} :
    ((BuilderCall.argument flag value).perform s).1 = .error e ↔
      ∃ e', e = .launch e' ∧ s.1.addArgument flag value = .error e' := by
  rw [BuilderCall.perform, useArgument_eq, adjust_apply]
  cases s.1.addArgument flag value with
  | error e' =>
      constructor
      · intro h
        cases h
        exact ⟨e', rfl, rfl⟩
      · rintro ⟨_, rfl, h⟩
        cases h
        rfl
  | ok b' =>
      constructor
      · intro h
        cases h
      · rintro ⟨_, _, h⟩
        cases h

/-- A call that may be refused leaves the builder alone until all is checked. -/
theorem perform_adjusts {port : Int} {timeout : Value} {c : BuilderCall}
    (hc : c ∈ [BuilderCall.argument flag value, .port port, .timeout timeout]) :
    ∃ f, c.perform = adjust f := by
  rcases List.mem_cons.mp hc with rfl | hc
  · exact ⟨_, useArgument_eq flag value⟩
  rcases List.mem_cons.mp hc with rfl | hc
  · exact ⟨_, usePort_eq port⟩
  · rw [List.mem_singleton.mp hc]
    exact ⟨_, useTimeout_eq timeout⟩

/-- A builder that is given a flag, whatever was done to it before.

    * A port by a flag, be it the short or the long one, is a port by its setter for the number
      that is read off the text; both are refused, or both lead to one state.
    * So it is with an address and with a log file, for the text as it is.
    * A flag that is named by an object is the flag of its text.
    * Nothing but an invalid argument is complained of.
    * A flag is refused if and only if it has a value, and that spells no number for a port, or
      a negative one, or is blank for the base path.
    * A flag, a port or a timeout that is refused leaves everything as it was. -/
theorem flags_set_fields (s : Builder × World) :
    (∀ text, ∀ name ∈ ["-p", "--port"],
      taken (BuilderCall.argument (.text name) (some text)).perform s
        = taken (setPortReading text) s) ∧
    (∀ text, ∀ name ∈ ["-a", "--address"],
      taken (BuilderCall.argument (.text name) (some text)).perform s
        = taken (BuilderCall.address (some text)).perform s) ∧
    (∀ text, ∀ name ∈ ["-g", "--log"],
      taken (BuilderCall.argument (.text name) (some text)).perform s
        = taken (BuilderCall.logFile (some (Path.ofString text))).perform s) ∧
    (∀ flag value, (BuilderCall.argument flag value).perform s
      = (BuilderCall.argument (.text flag.argument) value).perform s) ∧
    (∀ flag value e, ((BuilderCall.argument flag value).perform s).1 = .error e →
      ∃ e', e = .launch e' ∧ e'.kind = .invalidArgument) ∧
    (∀ flag value, (∃ e, ((BuilderCall.argument flag value).perform s).1 = .error e) ↔
      ∃ text, value = some text ∧
        (flag.argument ∈ ["-p", "--port"] ∧ (¬ ∃ n : Nat, Numeral.IntegerText text n) ∨
          flag.argument = "--base-path" ∧ Text.IsBlankText text)) ∧
    (∀ flag value port timeout, ∀ c ∈ [BuilderCall.argument flag value, .port port,
      .timeout timeout], ∀ e t, c.perform s = (.error e, t) → t = s) := by
  have hargument (flag : FlagName) (value : Option String) :
      taken (BuilderCall.argument flag value).perform s
        = ((s.1.addArgument flag value).mapError Failure.launch).toOption.map
            fun b => (b, s.2) := by
    rw [BuilderCall.perform, useArgument_eq, taken_adjust]
  refine ⟨fun text name hname => ?_, fun text name hname => ?_, fun text name hname => ?_,
    fun flag value => rfl, fun flag value e he => ?_, fun flag value => ?_, ?_⟩
  · rw [hargument, addArgument_port hname, setPortText_toOption, taken_setPortReading]
  · rw [hargument, addArgument_address hname]
    rfl
  · rw [hargument, addArgument_logFile hname]
    rfl
  · rcases perform_argument_error.mp he with ⟨e', rfl, hrefused⟩
    exact ⟨e', rfl, addArgument_error hrefused⟩
  · rw [← addArgument_isError_iff (b := s.1)]
    constructor
    · rintro ⟨e, he⟩
      rcases perform_argument_error.mp he with ⟨e', _, hrefused⟩
      exact ⟨e', hrefused⟩
    · rintro ⟨e', hrefused⟩
      exact ⟨_, perform_argument_error.mpr ⟨e', rfl, hrefused⟩⟩
  · intro flag value port timeout c hc e t hrun
    rcases perform_adjusts hc with ⟨f, hf⟩
    rw [hf] at hrun
    exact (adjust_error hrun).1

end Builder

end ServerLaunch

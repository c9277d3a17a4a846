import ServerLaunch.Proofs.DryRun
import ServerLaunch.Proofs.JsonReading
import ServerLaunch.Proofs.OptionsOverSettings
import ServerLaunch.Proofs.ReadBack

/-!
# Mistakes in Capabilities

What becomes of a text that is given for capabilities but gives none.

A text that is no JSON, or is JSON but no object, is a mistake of the user, and there is a message
for it. The limits of the reader are another matter. One of them is far off: brackets would have to
nest deeper than anybody writes them. The other is not about brackets, so nothing that is said of
these keeps a text from it: a whole number with too many digits is no mistake of syntax, and the
message for it does not reach the user as one.

Every fault of the reader has its reason in the text. So a text whose brackets do not nest too deep
is refused with a message, or gives capabilities, unless there is such a number; and then there are
as many digits in a row somewhere in the text.

Both commands come to the capabilities behind all other options. If nothing else is wrong, the
message is the end of both, or the failure passes through both.

## Main definitions

* `Misuses`: A text that is refused with a message for the user.
* `numbered`: An object with a whole number in it.

## Theorems

* `readCapabilities_cases`: What a text gives.
* `perform_of_noBuilder`: The end of both commands.
* `perform_of_misuses`, `perform_of_tooLong`: What they make of the capabilities.
* `readCapabilities_answers_iff`: The texts that are no mistake, and what the commands make of them.
-/

namespace ServerLaunch

/-- A text that gives no capabilities, with a message for the user. -/
def Misuses (s message : String) : Prop :=
  ∃ fault : CapabilitiesFault, readCapabilities s = .error fault ∧
    fault.usageMessage? = some message

/-- A text gives capabilities, it is a mistake, or it is beyond a limit of the reader. -/
theorem readCapabilities_cases (s : String) :
    ((∃ es, readCapabilities s = .ok es) ∨ ∃ message, Misuses s message) ∧
        (∀ digits, Json.parse s ≠ .error (.tooLong digits)) ∨
      (∃ digits, Json.parse s = .error (.tooLong digits) ∧
        readCapabilities s = .error (.tooLong digits)) ∨
      Json.parse s = .error .tooDeep := by
  unfold Misuses readCapabilities
  rcases Json.parse s with fault | v
  · cases fault with
    | malformed problem left =>
        exact Or.inl ⟨Or.inr ⟨_, _, rfl, rfl⟩, fun digits h => by cases h⟩
    | tooLong digits => exact Or.inr (Or.inl ⟨digits, rfl, rfl⟩)
    | tooDeep => exact Or.inr (Or.inr rfl)
  · refine Or.inl ⟨?_, fun digits h => by cases h⟩
    cases v with
    | dict es => exact Or.inl ⟨es, rfl⟩
    | _ => exact Or.inr ⟨_, _, rfl, rfl⟩

/-- Brackets that do not nest deeper than the reader goes are no reason for a fault. -/
theorem Json.parse_ne_tooDeep {s : String} (h : nesting s.toList ≤ depthLimit) :
    parse s ≠ .error .tooDeep := by
  intro hparse
  cases accounts_of_parse hparse with
  | tooDeep hdeep =>
      have hlevel := hdeep 0
      rw [nesting] at h
      omega

/-- A numeral that is too long has its digits in the text. -/
theorem Json.run_of_parse_tooLong {s : String} {digits : Nat}
    (h : parse s = .error (.tooLong digits)) :
    Numeral.digitLimit < digits ∧ ∃ run, run <:+: s.toList ∧ run.length = digits ∧
      ∀ c ∈ run, Text.isAsciiDigit c = true := by
  cases accounts_of_parse h with
  | tooLong hrun hdigits hlong => exact ⟨hlong, _, hrun, rfl, hdigits⟩

/-! ## A number that is too long -/

/-- An object with a whole number in it, by the name of `a`. -/
def numbered (i : Int) : List Char :=
  ['\x7b', '"', 'a', '"', ':', ' '] ++ (Numeral.intChars i ++ ['\x7d'])

theorem nesting_numbered (i : Int) : Json.nesting (numbered i) ≤ 1 := by
  have hdigit {c : Char} (hc : c ∈ Nat.toDigits 10 i.natAbs) : ¬(c = '[' ∨ c = '\x7b') := by
    have hplain := Json.isPlain_of_digit (Numeral.isAsciiDigit_of_mem_toDigits hc)
    rintro (rfl | rfl) <;> exact absurd hplain (by decide)
  have hnone : (Numeral.intChars i).countP (fun c => c = '[' ∨ c = '\x7b') = 0 := by
    refine List.countP_eq_zero.mpr fun c hc hopen => ?_
    rw [Numeral.intChars] at hc
    split at hc
    · rcases List.mem_cons.mp hc with rfl | hc
      · exact absurd hopen (by decide)
      · exact hdigit hc (of_decide_eq_true hopen)
    · exact hdigit hc (of_decide_eq_true hopen)
  refine (Json.nesting_le _).trans ?_
  rw [numbered, List.countP_append, List.countP_append, hnone]
  exact Nat.le_refl 1

/-- The reader refuses a number for its length, wherever it meets it. -/
theorem parse_numbered {i : Int} (h : Numeral.isTooLong i = true) :
    Json.parse (String.ofList (numbered i)) =
      .error (.tooLong (Nat.toDigits 10 i.natAbs).length) := by
  have hscalar := @Json.readScalar_intChars i ['\x7d'] (.cons rfl [])
  rw [if_pos h] at hscalar
  rcases Json.startsScalar_intChars i with ⟨c, cs, hchars, hc⟩
  have hvalue (fuel depth : Nat) : Json.readValue (fuel + 1) depth
      (Json.skipBlanks (' ' :: (Numeral.intChars i ++ ['\x7d']))) =
        .error (.tooLong (Nat.toDigits 10 i.natAbs).length) := by
    rw [hchars, List.cons_append] at hscalar ⊢
    change Json.readValue _ _ (Json.skipBlanks (c :: _)) = _
    rw [Json.skipBlanks_of_starts hc.1, Json.readValue_of_startsScalar hc, hscalar]
  have hentry (fuel depth : Nat) : Json.readEntries (fuel + 2) depth
      ('"' :: 'a' :: '"' :: ':' :: ' ' :: (Numeral.intChars i ++ ['\x7d'])) =
        .error (.tooLong (Nat.toDigits 10 i.natAbs).length) := by
    rw [Json.readEntries]
    change (Json.readValue (fuel + 1) depth
      (Json.skipBlanks (' ' :: (Numeral.intChars i ++ ['\x7d']))) >>= _) = _
    rw [hvalue]
    rfl
  rw [Json.parse, String.toList_ofList]
  change ((Json.readEntries (2 * (numbered i).length + 1) 984
    ('"' :: 'a' :: '"' :: ':' :: ' ' :: (Numeral.intChars i ++ ['\x7d']))).map _ >>= _) = _
  have hfuel : 2 * (numbered i).length + 1 = 2 * (numbered i).length - 1 + 2 := by
    simp only [numbered, List.length_append, List.length_cons]
    omega
  rw [hfuel, hentry]
  rfl

/-- A power of ten is too long if its zeros alone are as many as there may be digits. -/
theorem parse_numbered_pow {n : Nat} (h : Numeral.digitLimit ≤ n) :
    Json.parse (String.ofList (numbered ((10 ^ n : Nat) : Int))) = .error (.tooLong (n + 1)) := by
  have hpos : 0 < n := Nat.lt_of_lt_of_le (by decide) h
  have hlong : Numeral.isTooLong ((10 ^ n : Nat) : Int) = true := by
    rw [Numeral.isTooLong, Int.natAbs_natCast, Nat.pow_eq]
    exact decide_eq_true (Nat.pow_le_pow_right (by decide) h)
  have hatMost : (Nat.toDigits 10 (10 ^ n)).length ≤ n + 1 :=
    (Nat.length_toDigits_le_iff (by decide) n.succ_pos).mpr
      (Nat.pow_lt_pow_right (by decide) n.lt_succ_self)
  have hatLeast : ¬(Nat.toDigits 10 (10 ^ n)).length ≤ n :=
    mt (Nat.length_toDigits_le_iff (by decide) hpos).mp (Nat.lt_irrefl _)
  rw [parse_numbered hlong, Int.natAbs_natCast, show (Nat.toDigits 10 (10 ^ n)).length = n + 1 by
    omega]

/-! ## What the commands make of it -/

namespace CommandLine

variable {context : LaunchContext} {o : ServerOptions} {w w₁ : World}

/-- If the options lead to no builder, that is the end of both commands: a mistake is told to the
    user, and a failure passes through unless it is an error of the launcher. -/
theorem perform_of_noBuilder (c : Command) (own : Bool) {r : Except Failure UsageFault}
    (hlaunch : ∀ e, r ≠ .error (.launch e))
    (h : ∀ hasStream, o.builder context hasStream w = (r.map .error, w₁)) :
    c.perform context o own w = (r.map .error, w₁) := by
  have hprepare (hasStream : Bool) : prepare context o hasStream w = (r.map .error, w₁) := by
    rw [prepare_eq]
    cases r with
    | error e => exact Act.bind_error (h hasStream)
    | ok fault => exact Act.bind_ok (h hasStream)
  have hperform : c.perform context o own w = reportErrors (Act.ofExcept (r.map .error)) w₁ := by
    cases r with
    | error e => cases c <;> exact reportErrors_congr (Act.bind_error (hprepare _))
    | ok fault => cases c <;> exact reportErrors_congr (Act.bind_ok (hprepare _))
  rw [hperform]
  cases r with
  | ok fault => rfl
  | error e =>
      cases e with
      | launch error => exact absurd rfl (hlaunch error)
      | _ => rfl

/-- If nothing else is wrong, all depends on the capabilities. -/
theorem ServerOptions.builder_of_fits {l : Logger} (hlogger : context.logger = .logger l)
    (hfits : { o with caps := none }.FitsOver context.settings.server) (hasStream : Bool)
    (w : World) : ∃ b, o.builder context hasStream w = (o.applyCaps b, w) := by
  rcases (builder_iff hlogger _ hasStream w).1.mpr hfits with ⟨b, hb⟩
  rw [builder_apply hlogger, Prod.mk.injEq] at hb
  rcases except_bind_eq_ok.mp hb.1 with ⟨b₁, hconfig, hb⟩
  rcases except_bind_eq_ok.mp hb with ⟨b₂, happly, _⟩
  refine ⟨b₂, ?_⟩
  rw [builder_apply hlogger, hconfig]
  -- Without the capabilities the options are applied in the same way.
  change ((o.apply b₁).mapError Failure.launch >>= fun b => o.applyCaps b, w) = _
  rw [show (o.apply b₁).mapError Failure.launch = .ok b₂ from happly]
  rfl

section Ends

variable {s : String} {l : Logger} (hlogger : context.logger = .logger l) (hcaps : o.caps = some s)
  (hfits : { o with caps := none }.FitsOver context.settings.server)
include hlogger hcaps hfits

theorem perform_of_misuses {message : String} (h : Misuses s message) (c : Command) (own : Bool) :
    c.perform context o own w = (.ok (.error (.invalid capsHint message)), w) := by
  rcases h with ⟨fault, hread, hmessage⟩
  have hrefused (b : Builder) : o.applyCaps b = .ok (.error (.invalid capsHint message)) := by
    simp only [ServerOptions.applyCaps, hcaps, hread]
    cases fault with
    | tooLong digits => cases hmessage
    | tooDeep => cases hmessage
    | _ => simp only [hmessage, Option.getD_some]
  refine @perform_of_noBuilder context o w w c own (.ok (.invalid capsHint message))
    (fun e h => by cases h) fun hasStream => ?_
  rcases ServerOptions.builder_of_fits hlogger hfits hasStream w with ⟨b, hb⟩
  rw [hb, hrefused]
  rfl

theorem perform_of_tooLong {digits : Nat} (h : Json.parse s = .error (.tooLong digits))
    (c : Command) (own : Bool) :
    c.perform context o own w = (.error (.longNumeral digits), w) := by
  have hread : readCapabilities s = .error (.tooLong digits) := by rw [readCapabilities, h]
  refine @perform_of_noBuilder context o w w c own (.error (.longNumeral digits))
    (fun e h => by cases h) fun hasStream => ?_
  rcases ServerOptions.builder_of_fits hlogger hfits hasStream w with ⟨b, hb⟩
  rw [hb, ServerOptions.applyCaps]
  simp only [hcaps, hread]
  rfl

end Ends

end CommandLine

open CommandLine in
/-- Where brackets nest sixty deep at most, a text gives capabilities or is refused with a message,
    exactly if no whole number in it is too long. A number that is has its digits in the text. If
    nothing else is wrong with the options, the message is the end of both commands; the failure
    because of a number passes through both. -/
theorem readCapabilities_answers_iff {s : String} (hnesting : Json.nesting s.toList ≤ 60) :
    (((∃ es, readCapabilities s = .ok es) ∨ ∃ message, Misuses s message) ↔
        ∀ digits, Json.parse s ≠ .error (.tooLong digits)) ∧
      (∀ digits, Json.parse s = .error (.tooLong digits) →
        4300 < digits ∧ ∃ run, run <:+: s.toList ∧ run.length = digits ∧
          ∀ c ∈ run, Text.isAsciiDigit c = true) ∧
      ∀ (c : Command) (context : LaunchContext) (l : Logger) (o : ServerOptions) (own : Bool)
        (w : World), context.logger = .logger l → o.caps = some s →
        { o with caps := none }.FitsOver context.settings.server →
          (∀ message, Misuses s message →
            c.perform context o own w = (.ok (.error (.invalid capsHint message)), w)) ∧
          ∀ digits, Json.parse s = .error (.tooLong digits) →
            c.perform context o own w = (.error (.longNumeral digits), w) := by
  have hdeep : Json.parse s ≠ .error .tooDeep :=
    Json.parse_ne_tooDeep (hnesting.trans (by decide))
  refine ⟨?_, fun digits h => Json.run_of_parse_tooLong h, ?_⟩
  · rcases readCapabilities_cases s with ⟨hgives, hshort⟩ | ⟨digits, hparse, hread⟩ | htooDeep
    · exact iff_of_true hgives hshort
    · refine iff_of_false ?_ fun hshort => hshort digits hparse
      rintro (⟨es, hes⟩ | ⟨message, fault, hfault, hmessage⟩)
      · rw [hread] at hes
        cases hes
      · rw [hread] at hfault
        cases hfault
        cases hmessage
    · exact absurd htooDeep hdeep
  · intro c context l o own w hlogger hcaps hfits
    exact ⟨fun message h => perform_of_misuses hlogger hcaps hfits h c own,
      fun digits h => perform_of_tooLong hlogger hcaps hfits h c own⟩

open CommandLine in
/-- The least number that is too long, in a text with one pair of brackets and with no other
    option. -/
theorem readCapabilities_answers_iff_numbered :
    ∃ s, s.toList = numbered ((10 ^ Numeral.digitLimit : Nat) : Int) ∧
      Json.nesting s.toList ≤ 60 ∧ (¬∃ es, readCapabilities s = .ok es) ∧
      (¬∃ message, Misuses s message) ∧
      ∀ (c : Command) (own : Bool) (w : World),
        c.perform crowdedContext { caps := some s } own w = (.error (.longNumeral 4301), w) := by
  have hparse := parse_numbered_pow (Nat.le_refl Numeral.digitLimit)
  have hnesting := nesting_numbered ((10 ^ Numeral.digitLimit : Nat) : Int)
  have hchars := @String.toList_ofList (numbered ((10 ^ Numeral.digitLimit : Nat) : Int))
  rw [← hchars] at hnesting
  generalize String.ofList (numbered _) = s at hnesting hparse hchars
  have hsixty : Json.nesting s.toList ≤ 60 := hnesting.trans (by decide)
  rcases readCapabilities_answers_iff hsixty with ⟨hiff, _, hcommands⟩
  have hnone := fun h => hiff.mp h _ hparse
  refine ⟨s, hchars, hsixty, fun h => hnone (Or.inl h), fun h => hnone (Or.inr h), ?_⟩
  intro c own w
  have hfits : ({ caps := none } : ServerOptions).FitsOver crowdedContext.settings.server := by
    refine ⟨by decide, by decide +kernel, by decide, by decide, ?_, fun _ h => nomatch h⟩
    exact (@Builder.addFlags_isOk_iff default _).mp ⟨_, rfl⟩
  exact (hcommands c crowdedContext (.silent 0) { caps := some s } own w rfl rfl hfits).2 _ hparse

end ServerLaunch

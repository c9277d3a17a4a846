import ServerLaunch.Json.Reader
import ServerLaunch.Proofs.Action
import ServerLaunch.Proofs.Numeral
import ServerLaunch.Proofs.OutsideQuotes

/-!
# Reading JSON, Step by Step

What a reader of JSON takes from a text, what the values are like that it gives, and what its faults
tell about the text.

The reader is three functions that call each other, and every statement about it is an induction on
its fuel with a step for each of them. The inductions are made here, once for each of three
questions.

What is taken from a text when a value is read stands for itself: it is begun and ended outside
quoted texts, and its brackets match. So a place that the reader comes to is at a level of brackets
that can be told from the text before, and one bracket more is as deep as the text there says.

The values that are read are made of scalars and texts, in lists and in objects with texts for
names. Whatever holds of these and is kept by lists and objects holds of all that is read.

A fault is a mistake of whoever wrote the text, or it comes from a limit. A limit has a reason in
the text: a run of that many digits, or brackets that nest as deep. The fuel of the reader never
runs out, for every step takes a character; so it is no reason.

## Main definitions

* `ReadClosed`: What lists and objects keep.
* `Accounts`: A fault has its reason in the text.

## Theorems

* `readValue_passes`: What is taken from a text.
* `ReadClosed.of_parse`: What holds of all values that are read.
* `accounts_of_parse`: The reasons of faults.
-/

namespace ServerLaunch

namespace Text

theorem isSome_of_hexValueFrom {acc n : Nat} {cs : List Char} (h : hexValueFrom acc cs = some n) :
    ∀ c ∈ cs, (hexDigitValue? c).isSome := by
  induction cs generalizing acc with
  | nil => exact List.forall_mem_nil _
  | cons c cs ih =>
      rcases Option.bind_eq_some_iff.mp h with ⟨d, hd, hrest⟩
      exact List.forall_mem_cons.mpr ⟨by rw [hd]; rfl, ih hrest⟩

end Text

namespace Json

variable {cs rest : List Char} {fuel depth : Nat}

section Pieces

/-! ## What is taken from a text -/

/-- A quoted text is taken up to the quote that ends it. -/
theorem finishes_of_readUnits {opening : Nat} {ns : List Nat}
    (h : readUnits opening cs = .ok (ns, rest)) : ∃ piece, cs = piece ++ rest ∧ Finishes piece := by
  fun_induction readUnits opening cs generalizing ns rest with
  | case2 after =>
      cases h
      exact ⟨['"'], rfl, .quote⟩
  | case5 a b c d e after n hunit ih =>
      rcases except_map_eq_ok.mp h with ⟨⟨ns', rest'⟩, hread, hrest⟩
      cases hrest
      rcases ih hread with ⟨piece, hpiece, hfinishes⟩
      have hdigits : ∀ x ∈ [a, b, c, d], (Text.hexDigitValue? x).isSome :=
        Text.isSome_of_hexValueFrom hunit
      refine ⟨'\\' :: 'u' :: ([a, b, c, d] ++ piece), by rw [hpiece]; rfl, .escape 'u' ?_⟩
      exact .hexDigits hdigits hfinishes
  | case8 c after hunit hlast n hescape ih =>
      rcases except_map_eq_ok.mp h with ⟨⟨ns', rest'⟩, hread, hrest⟩
      cases hrest
      rcases ih hread with ⟨piece, rfl, hfinishes⟩
      exact ⟨'\\' :: c :: piece, rfl, .escape c hfinishes⟩
  | case10 c after hquote hlast hunit hshort hescape hcontrol ih =>
      rcases except_map_eq_ok.mp h with ⟨⟨ns', rest'⟩, hread, hrest⟩
      cases hrest
      rcases ih hread with ⟨piece, rfl, hfinishes⟩
      -- A backslash would have been one of the cases before.
      have hslash : c ≠ '\\' := by
        intro hc
        rcases hafter : piece ++ rest with _ | ⟨x, xs⟩
        · exact hlast hc hafter
        · exact hescape x xs hc hafter
      exact ⟨c :: piece, rfl, .cons hquote hslash hfinishes⟩
  | _ => cases h

theorem readText_passes {s : List Char} (h : readText cs = .ok (s, rest)) :
    Passes 1 0 0 ('"' :: cs) rest := by
  rcases except_map_eq_ok.mp h with ⟨⟨ns, rest'⟩, hread, hrest⟩
  cases hrest
  rcases finishes_of_readUnits hread with ⟨piece, rfl, hfinishes⟩
  exact ⟨'"' :: piece, rfl, Nat.succ_pos _, .quoted hfinishes⟩

theorem skipBlanks_passes {a : Nat} (cs : List Char) : Passes 0 a a cs (skipBlanks cs) := by
  have hblank : ∀ c ∈ cs.takeWhile isBlank, IsPlain c := by
    intro c hc
    have hc := List.all_eq_true.mp List.all_takeWhile c hc
    simp only [isBlank, Bool.or_eq_true, beq_iff_eq] at hc
    rcases hc with ((rfl | rfl) | rfl) | rfl <;> decide
  exact ⟨cs.takeWhile isBlank, List.takeWhile_append_dropWhile.symm, Nat.zero_le _,
    .of_plain hblank⟩

theorem isPlain_of_digit {c : Char} (h : Text.isAsciiDigit c = true) : IsPlain c := by
  have hmarks : (['"', '[', ']', '\x7b', '\x7d'].all fun d => !Text.isAsciiDigit d) = true := by
    decide
  intro hmem
  have hnot := List.all_eq_true.mp hmarks c hmem
  rw [h] at hnot
  cases hnot

theorem eq_append_of_spanDigits {ds : List Char} (h : Numeral.spanDigits cs = (ds, rest)) :
    cs = ds ++ rest ∧ ∀ c ∈ ds, Text.isAsciiDigit c = true := by
  have hspan := h
  rw [Numeral.spanDigits, List.span_eq_takeWhile_dropWhile] at hspan
  cases hspan
  exact ⟨List.takeWhile_append_dropWhile.symm, fun c hc =>
    Numeral.isAsciiDigit_of_mem_spanDigits (by rw [h]; exact hc)⟩

/-- The whole part of a number is a run of digits, and there is one at least. -/
theorem eq_append_of_wholePart? {ds : List Char} (h : wholePart? cs = some (ds, rest)) :
    cs = ds ++ rest ∧ (∀ c ∈ ds, Text.isAsciiDigit c = true) ∧ ds ≠ [] := by
  unfold wholePart? at h
  split at h
  · cases h
    exact ⟨rfl, List.forall_mem_singleton.mpr rfl, List.cons_ne_nil _ _⟩
  · rcases hspan : Numeral.spanDigits cs with ⟨ds', rest'⟩
    simp only [hspan, Option.ite_none_left_eq_some, Option.some.injEq, Prod.mk.injEq] at h
    rcases h with ⟨hne, rfl, rfl⟩
    rcases eq_append_of_spanDigits hspan with ⟨hcs, hds⟩
    exact ⟨hcs, hds, fun hnil => hne (by rw [hnil]; rfl)⟩

theorem spanDigits_passes (cs : List Char) : Passes 0 0 0 cs (Numeral.spanDigits cs).2 := by
  rcases hspan : Numeral.spanDigits cs with ⟨ds, rest⟩
  rcases eq_append_of_spanDigits hspan with ⟨rfl, hds⟩
  exact (Passes.of_plain (fun c hc => isPlain_of_digit (hds c hc)) rest).mono (Nat.zero_le _)

theorem fractionPart_passes (cs : List Char) : Passes 0 0 0 cs (fractionPart cs).2 := by
  unfold fractionPart
  split
  · next rest =>
      dsimp only
      split
      · exact .refl _
      · have hpoint : Passes 1 0 0 ('.' :: rest) rest := .plain (by decide) rest
        exact (hpoint.trans (spanDigits_passes rest)).mono (Nat.zero_le _)
  · exact .refl _

theorem readSign_passes (cs : List Char) : Passes 0 0 0 cs (Numeral.readSign cs).2 := by
  unfold Numeral.readSign
  split
  · exact (Passes.plain (by decide) _).mono (Nat.zero_le _)
  · exact (Passes.plain (by decide) _).mono (Nat.zero_le _)
  · exact .refl _

theorem exponentPart_passes (cs : List Char) : Passes 0 0 0 cs (exponentPart cs).2 := by
  unfold exponentPart
  split
  · next c rest =>
      split
      · next hmark =>
          have hc : IsPlain c := by
            rw [Bool.or_eq_true, beq_iff_eq, beq_iff_eq] at hmark
            rcases hmark with rfl | rfl <;> decide
          dsimp only
          split
          · exact .refl _
          · have hmarked : Passes 1 0 0 (c :: rest) rest := .plain hc rest
            have hsigned := hmarked.trans (readSign_passes rest)
            exact (hsigned.trans (spanDigits_passes _)).mono (Nat.zero_le _)
      · exact .refl _
  · exact .refl _

/-- The parts of a number: a sign, and a whole part. What comes then makes a number of it, unless it
    is whole and too long. -/
theorem readNumber?_cases {result : Except Fault (Number × List Char)}
    (h : readNumber? cs = some result) :
    ∃ whole after, Passes 1 0 0 cs after ∧ (whole <:+: cs) ∧
      (∀ c ∈ whole, Text.isAsciiDigit c = true) ∧
      ((∃ n rest, result = .ok (n, rest) ∧ Passes 0 0 0 after rest) ∨
        (Numeral.digitLimit < whole.length ∧ result = .error (.tooLong whole.length))) := by
  unfold readNumber? at h
  split at h
  next negative unsigned hsign =>
    have hunsigned : Passes 0 0 0 cs unsigned := by
      split at hsign <;> cases hsign
      · exact (Passes.plain (by decide) _).mono (Nat.zero_le _)
      · exact .refl _
    rcases Option.map_eq_some_iff.mp h with ⟨⟨whole, after⟩, hwhole, hresult⟩
    rcases eq_append_of_wholePart? hwhole with ⟨rfl, hdigits, hne⟩
    have htaken : Passes whole.length 0 0 (whole ++ after) after :=
      .of_plain (fun c hc => isPlain_of_digit (hdigits c hc)) after
    have hpos := List.length_pos_of_ne_nil hne
    refine ⟨whole, after, ?_, ?_, hdigits, ?_⟩
    · exact (hunsigned.trans htaken).mono (by omega)
    · exact (List.prefix_append whole after).isInfix.trans hunsigned.isSuffix.isInfix
    · have hrest := (fractionPart_passes after).trans (exponentPart_passes (fractionPart after).2)
      dsimp only at hresult
      split at hresult
      · split at hresult
        · next hlong => exact Or.inr ⟨hlong, hresult.symm⟩
        · exact Or.inl ⟨_, _, hresult.symm, hrest⟩
      · exact Or.inl ⟨_, _, hresult.symm, hrest⟩

theorem readScalar_passes {v : Value} (h : readScalar cs = .ok (v, rest)) :
    Passes 1 0 0 cs rest := by
  have hwords : ∀ e ∈ words, e.1 ≠ [] ∧ (e.1.all fun c => decide (IsPlain c)) = true := by decide
  unfold readScalar at h
  split at h
  · next word w hfind =>
      cases h
      rcases hwords _ (List.mem_of_find?_eq_some hfind) with ⟨hne, hplain⟩
      have hfound := List.find?_some hfind
      rcases List.isPrefixOf_iff_prefix.mp hfound with ⟨after, rfl⟩
      rw [List.drop_left]
      have hplain := fun c hc => of_decide_eq_true (List.all_eq_true.mp hplain c hc)
      exact (Passes.of_plain hplain after).mono (List.length_pos_of_ne_nil hne)
  · split at h
    · next result hnumber =>
        rcases readNumber?_cases hnumber with
          ⟨whole, after, hwhole, _, _, ⟨n, rest', rfl, hrest⟩ | ⟨_, rfl⟩⟩
        · cases h
          exact hwhole.trans hrest
        · cases h
    · cases h

/-- What is taken when a value, the members of a list or the entries of an object are read in so
    many steps. The bracket in front of members and entries is taken before. -/
structure TakesPieces (fuel : Nat) : Prop where
  value : ∀ {depth cs rest v}, readValue fuel depth cs = .ok (v, rest) → Passes 1 0 0 cs rest
  members : ∀ {depth cs rest vs}, readMembers fuel depth cs = .ok (vs, rest) → Passes 1 1 0 cs rest
  entries : ∀ {depth cs rest es}, readEntries fuel depth cs = .ok (es, rest) → Passes 1 1 0 cs rest

theorem open_passes {c : Char} (h : c = '[' ∨ c = '\x7b') (rest : List Char) :
    Passes 1 0 1 (c :: rest) (skipBlanks rest) := by
  refine Passes.trans (.single ?_ ?_ rest) (skipBlanks_passes rest)
  · rcases h with rfl | rfl <;> decide
  · rcases h with rfl | rfl <;> exact fun _ => rfl

theorem close_passes {c : Char} (h : c = ']' ∨ c = '\x7d') (rest : List Char) :
    Passes 1 1 0 (c :: rest) rest := by
  refine .single ?_ ?_ rest
  · rcases h with rfl | rfl <;> decide
  · rcases h with rfl | rfl <;> exact fun _ => rfl

/-- A separator with white space around it. -/
theorem Passes.separator {n : Nat} {sep : Char} {after : List Char} (h : Passes n 0 0 cs rest)
    (hrest : skipBlanks rest = sep :: after) (hsep : IsPlain sep) :
    Passes (n + 1) 0 0 cs (skipBlanks after) := by
  have hgap := h.trans (skipBlanks_passes rest)
  rw [hrest] at hgap
  exact (hgap.trans (.plain hsep after)).trans (skipBlanks_passes after)

/-- The end of a list or an object, with white space in front. -/
theorem Passes.close {n : Nat} {c : Char} {after : List Char} (h : Passes n 0 0 cs rest)
    (hrest : skipBlanks rest = c :: after) (hc : c = ']' ∨ c = '\x7d') :
    Passes (n + 1) 1 0 cs after := by
  have hgap := h.trans (skipBlanks_passes rest)
  rw [hrest] at hgap
  exact hgap.lift.trans (close_passes hc after)

section Step

variable (ih : TakesPieces fuel)
include ih

theorem TakesPieces.step_value {v : Value} (h : readValue (fuel + 1) depth cs = .ok (v, rest)) :
    Passes 1 0 0 cs rest := by
  unfold readValue at h
  simp only at h
  split at h
  · rcases except_map_eq_ok.mp h with ⟨⟨s, rest'⟩, hread, hrest⟩
    cases hrest
    exact readText_passes hread
  · next after =>
      rcases depth with _ | depth
      · cases h
      have hopen := open_passes (Or.inl rfl) after
      simp only at h
      split at h
      · next hclose =>
          cases h
          rw [hclose] at hopen
          exact (hopen.trans (close_passes (Or.inl rfl) _)).mono (by decide)
      · rcases except_map_eq_ok.mp h with ⟨⟨vs, rest'⟩, hread, hrest⟩
        cases hrest
        exact (hopen.trans (ih.members hread)).mono (by decide)
  · next after =>
      rcases depth with _ | depth
      · cases h
      have hopen := open_passes (Or.inr rfl) after
      simp only at h
      split at h
      · next hclose =>
          cases h
          rw [hclose] at hopen
          exact (hopen.trans (close_passes (Or.inr rfl) _)).mono (by decide)
      · rcases except_map_eq_ok.mp h with ⟨⟨es, rest'⟩, hread, hrest⟩
        cases hrest
        exact (hopen.trans (ih.entries hread)).mono (by decide)
  · exact readScalar_passes h

theorem TakesPieces.step_members {vs : List Value}
    (h : readMembers (fuel + 1) depth cs = .ok (vs, rest)) : Passes 1 1 0 cs rest := by
  unfold readMembers at h
  rcases except_bind_eq_ok.mp h with ⟨⟨v, after⟩, hread, h⟩
  simp only at h
  split at h
  · next hclose =>
      cases h
      exact ((ih.value hread).close hclose (Or.inl rfl)).mono (by decide)
  · next hcomma =>
      rcases except_bind_eq_ok.mp h with ⟨⟨others, rest'⟩, hreads, h⟩
      cases h
      have hitem := (ih.value hread).separator hcomma (by decide)
      exact (hitem.lift.trans (ih.members hreads)).mono (by decide)
  · cases h

theorem TakesPieces.step_entries {es : Entries}
    (h : readEntries (fuel + 1) depth cs = .ok (es, rest)) : Passes 1 1 0 cs rest := by
  unfold readEntries at h
  simp only at h
  split at h
  · rcases except_bind_eq_ok.mp h with ⟨⟨name, after⟩, hname, h⟩
    simp only at h
    split at h
    · next hcolon =>
        have hnamed := (readText_passes hname).separator hcolon (by decide)
        rcases except_bind_eq_ok.mp h with ⟨⟨v, after'⟩, hread, h⟩
        have hentry := hnamed.trans (ih.value hread)
        simp only at h
        split at h
        · next hclose =>
            cases h
            exact (hentry.close hclose (Or.inr rfl)).mono (by decide)
        · next hcomma =>
            rcases except_bind_eq_ok.mp h with ⟨⟨others, rest'⟩, hreads, h⟩
            cases h
            have hitem := hentry.separator hcomma (by decide)
            exact (hitem.lift.trans (ih.entries hreads)).mono (by decide)
        · cases h
    · cases h
  · cases h

end Step

theorem takesPieces (fuel : Nat) : TakesPieces fuel := by
  induction fuel with
  | zero => constructor <;> intro _ _ _ _ h <;> cases h
  | succ fuel ih => exact ⟨ih.step_value, ih.step_members, ih.step_entries⟩

/-- What is taken when a value is read stands for itself. -/
theorem readValue_passes {v : Value} (h : readValue fuel depth cs = .ok (v, rest)) :
    Passes 1 0 0 cs rest :=
  (takesPieces fuel).value h

end Pieces

section Values

/-! ## The values that are read -/

/-- What holds of scalars and texts, and is kept by lists and by objects with texts for names, each
    at one level more. -/
structure ReadClosed (P : Nat → Value → Prop) : Prop where
  scalar : ∀ {depth cs rest v}, readScalar cs = .ok (v, rest) → P depth v
  text : ∀ {depth} (s : String), P depth (.text s)
  list : ∀ {depth vs}, (∀ v ∈ vs, P depth v) → P (depth + 1) (.list vs)
  dict : ∀ {depth es}, (∀ e ∈ es, (∃ s, e.1 = .text s) ∧ P depth e.2) →
    P (depth + 1) (.dict (Entries.ofPairs es))

/-- What is read in so many steps is of the kind. -/
structure ReadsInto (P : Nat → Value → Prop) (fuel : Nat) : Prop where
  value : ∀ {depth cs rest v}, readValue fuel depth cs = .ok (v, rest) → P depth v
  members : ∀ {depth cs rest vs}, readMembers fuel depth cs = .ok (vs, rest) → ∀ v ∈ vs, P depth v
  entries : ∀ {depth cs rest es}, readEntries fuel depth cs = .ok (es, rest) →
    ∀ e ∈ es, (∃ s, e.1 = .text s) ∧ P depth e.2

variable {P : Nat → Value → Prop}

section Step

variable (ih : ReadsInto P fuel)
include ih

theorem ReadsInto.step_value (hP : ReadClosed P) {v : Value}
    (h : readValue (fuel + 1) depth cs = .ok (v, rest)) : P depth v := by
  unfold readValue at h
  simp only at h
  split at h
  · rcases except_map_eq_ok.mp h with ⟨_, _, hv⟩
    cases hv
    exact hP.text _
  · rcases depth with _ | depth
    · cases h
    simp only at h
    split at h
    · cases h
      exact hP.list (List.forall_mem_nil _)
    · rcases except_map_eq_ok.mp h with ⟨⟨vs, after⟩, hread, hv⟩
      cases hv
      exact hP.list (ih.members hread)
  · rcases depth with _ | depth
    · cases h
    simp only at h
    split at h
    · cases h
      exact @ReadClosed.dict P hP depth [] (List.forall_mem_nil _)
    · rcases except_map_eq_ok.mp h with ⟨⟨es, after⟩, hread, hv⟩
      cases hv
      exact hP.dict (ih.entries hread)
  · exact hP.scalar h

theorem ReadsInto.step_members {vs : List Value}
    (h : readMembers (fuel + 1) depth cs = .ok (vs, rest)) : ∀ v ∈ vs, P depth v := by
  unfold readMembers at h
  rcases except_bind_eq_ok.mp h with ⟨⟨v, after⟩, hread, h⟩
  simp only at h
  split at h
  · cases h
    exact List.forall_mem_singleton.mpr (ih.value hread)
  · rcases except_bind_eq_ok.mp h with ⟨⟨others, after'⟩, hreads, h⟩
    cases h
    exact List.forall_mem_cons.mpr ⟨ih.value hread, ih.members hreads⟩
  · cases h

theorem ReadsInto.step_entries {es : Entries}
    (h : readEntries (fuel + 1) depth cs = .ok (es, rest)) :
    ∀ e ∈ es, (∃ s, e.1 = .text s) ∧ P depth e.2 := by
  unfold readEntries at h
  simp only at h
  split at h
  · rcases except_bind_eq_ok.mp h with ⟨⟨name, after⟩, _, h⟩
    simp only at h
    split at h
    · rcases except_bind_eq_ok.mp h with ⟨⟨v, after'⟩, hread, h⟩
      simp only at h
      split at h
      · cases h
        exact List.forall_mem_singleton.mpr ⟨⟨_, rfl⟩, ih.value hread⟩
      · rcases except_bind_eq_ok.mp h with ⟨⟨others, _⟩, hreads, h⟩
        cases h
        exact List.forall_mem_cons.mpr ⟨⟨⟨_, rfl⟩, ih.value hread⟩, ih.entries hreads⟩
      · cases h
    · cases h
  · cases h

end Step

theorem ReadClosed.readsInto (hP : ReadClosed P) (fuel : Nat) : ReadsInto P fuel := by
  induction fuel with
  | zero => constructor <;> intro _ _ _ _ h <;> cases h
  | succ fuel ih => exact ⟨ih.step_value hP, ih.step_members, ih.step_entries⟩

/-- What holds of scalars and texts, and is kept by lists and objects, holds of all that is read. -/
theorem ReadClosed.of_parse (hP : ReadClosed P) {s : String} {v : Value} (h : parse s = .ok v) :
    P depthLimit v := by
  unfold parse parseChars at h
  split at h
  · cases h
  · rcases except_bind_eq_ok.mp h with ⟨⟨u, after⟩, hread, h⟩
    simp only at h
    split at h
    · cases h
      exact (hP.readsInto _).value hread
    · cases h

end Values

section Faults

/-! ## The reasons of faults -/

/-- A fault has its reason in the text: a numeral is a run of that many digits, and brackets nest
    deeper than the depth that is left. -/
inductive Accounts (depth : Nat) (cs : List Char) : Fault → Prop
  | malformed (problem : Problem) (left : Nat) : Accounts depth cs (.malformed problem left)
  | tooLong {run : List Char} (hrun : run <:+: cs)
      (hdigits : ∀ c ∈ run, Text.isAsciiDigit c = true)
      (hlong : Numeral.digitLimit < run.length) : Accounts depth cs (.tooLong run.length)
  | tooDeep (hdeep : ∀ level, level + depth < deepest level (bare .outside cs)) :
      Accounts depth cs .tooDeep

variable {fault : Fault}

/-- A reason that is found further on is one in the whole. -/
theorem Accounts.of_passes {n : Nat} (h : Accounts depth rest fault)
    (hpass : Passes n 0 0 cs rest) : Accounts depth cs fault := by
  cases h with
  | malformed problem left => exact .malformed problem left
  | tooLong hrun hdigits hlong => exact .tooLong (hrun.trans hpass.isSuffix.isInfix) hdigits hlong
  | tooDeep hdeep => exact .tooDeep fun level => (hdeep level).trans_le (hpass.deepest_le level)

/-- Behind a bracket there is one level less to go. -/
theorem Accounts.of_opened {n : Nat} (h : Accounts depth rest fault)
    (hpass : Passes n 0 1 cs rest) : Accounts (depth + 1) cs fault := by
  cases h with
  | malformed problem left => exact .malformed problem left
  | tooLong hrun hdigits hlong => exact .tooLong (hrun.trans hpass.isSuffix.isInfix) hdigits hlong
  | tooDeep hdeep =>
      refine .tooDeep fun level => ?_
      have hrest := hdeep (level + 1)
      have hwhole : deepest (level + 1) (bare .outside rest) ≤ deepest level (bare .outside cs) :=
        hpass.deepest_le level
      omega

/-- A quoted text is refused for a mistake in it. -/
theorem accounts_of_readText {cs' : List Char} (h : readText cs' = .error fault) :
    Accounts depth cs fault := by
  have hunits : ∀ {opening : Nat} {ds : List Char}, readUnits opening ds = .error fault →
      ∃ problem left, fault = .malformed problem left := by
    intro opening ds h
    fun_induction readUnits opening ds with
    | case2 => cases h
    | case5 a b c d e after n hunit ih => exact ih (except_map_eq_error.mp h)
    | case8 c after hunit hlast n hescape ih => exact ih (except_map_eq_error.mp h)
    | case10 c after hquote hlast hunit hshort hescape hcontrol ih =>
        exact ih (except_map_eq_error.mp h)
    | _ =>
        cases h
        exact ⟨_, _, rfl⟩
  rcases hunits (except_map_eq_error.mp h) with ⟨problem, left, rfl⟩
  exact .malformed problem left

/-- A scalar is refused for a mistake, or because it is a numeral that is too long. -/
theorem accounts_of_readScalar (h : readScalar cs = .error fault) : Accounts depth cs fault := by
  unfold readScalar at h
  split at h
  · cases h
  · split at h
    · next result hnumber =>
        rcases readNumber?_cases hnumber with
          ⟨whole, after, _, hinfix, hdigits, ⟨n, rest', rfl, _⟩ | ⟨hlong, rfl⟩⟩
        · cases h
        · cases h
          exact .tooLong hinfix hdigits hlong
    · cases h
      exact .malformed _ _

/-- The faults of values, members and entries have their reasons in the text, if there is fuel for
    two steps a character. -/
structure AccountsFor (fuel : Nat) : Prop where
  value : ∀ {depth cs fault}, 2 * cs.length + 1 ≤ fuel →
    readValue fuel depth cs = .error fault → Accounts depth cs fault
  members : ∀ {depth cs fault}, 2 * cs.length + 2 ≤ fuel →
    readMembers fuel depth cs = .error fault → Accounts depth cs fault
  entries : ∀ {depth cs fault}, 2 * cs.length + 2 ≤ fuel →
    readEntries fuel depth cs = .error fault → Accounts depth cs fault

/-- A bracket too many is a reason at once. -/
theorem accounts_of_open {c : Char} (h : c = '[' ∨ c = '\x7b') (after : List Char) :
    Accounts 0 (c :: after) .tooDeep := by
  refine .tooDeep fun level => ?_
  have hbracket : deepest (level + 1) (bare .outside (skipBlanks after))
      ≤ deepest level (bare .outside (c :: after)) := (open_passes h after).deepest_le level
  have hlevel := le_deepest (level + 1) (bare .outside (skipBlanks after))
  omega

section Step

variable (ih : AccountsFor fuel)
include ih

theorem AccountsFor.step_value (hfuel : 2 * cs.length + 1 ≤ fuel + 1)
    (h : readValue (fuel + 1) depth cs = .error fault) : Accounts depth cs fault := by
  unfold readValue at h
  simp only at h
  split at h
  · exact accounts_of_readText (except_map_eq_error.mp h)
  · next after =>
      rcases depth with _ | depth
      · cases h
        exact accounts_of_open (Or.inl rfl) after
      have hopen := open_passes (Or.inl rfl) after
      have hlength := hopen.length_add_le
      simp only at h
      split at h
      · cases h
      · exact (ih.members (by omega) (except_map_eq_error.mp h)).of_opened hopen
  · next after =>
      rcases depth with _ | depth
      · cases h
        exact accounts_of_open (Or.inr rfl) after
      have hopen := open_passes (Or.inr rfl) after
      have hlength := hopen.length_add_le
      simp only at h
      split at h
      · cases h
      · exact (ih.entries (by omega) (except_map_eq_error.mp h)).of_opened hopen
  · exact accounts_of_readScalar h

theorem AccountsFor.step_members (hfuel : 2 * cs.length + 2 ≤ fuel + 1)
    (h : readMembers (fuel + 1) depth cs = .error fault) : Accounts depth cs fault := by
  unfold readMembers at h
  rcases except_bind_eq_error.mp h with h | ⟨⟨v, after⟩, hread, h⟩
  · exact ih.value (by omega) h
  · simp only at h
    split at h
    · cases h
    · next hcomma =>
        have hitem := (readValue_passes hread).separator hcomma (by decide)
        have hlength := hitem.length_add_le
        rcases except_bind_eq_error.mp h with h | ⟨_, _, h⟩
        · exact (ih.members (by omega) h).of_passes hitem
        · cases h
    · cases h
      exact .malformed _ _

theorem AccountsFor.step_entries (hfuel : 2 * cs.length + 2 ≤ fuel + 1)
    (h : readEntries (fuel + 1) depth cs = .error fault) : Accounts depth cs fault := by
  unfold readEntries at h
  simp only at h
  split at h
  · rcases except_bind_eq_error.mp h with h | ⟨⟨name, after⟩, hname, h⟩
    · exact accounts_of_readText h
    simp only at h
    split at h
    · next hcolon =>
        have hnamed := (readText_passes hname).separator hcolon (by decide)
        have hlength := hnamed.length_add_le
        rcases except_bind_eq_error.mp h with h | ⟨⟨v, after'⟩, hread, h⟩
        · exact (ih.value (by omega) h).of_passes hnamed
        have hentry := hnamed.trans (readValue_passes hread)
        simp only at h
        split at h
        · cases h
        · next hcomma =>
            have hitem := hentry.separator hcomma (by decide)
            have hlength := hitem.length_add_le
            rcases except_bind_eq_error.mp h with h | ⟨_, _, h⟩
            · exact (ih.entries (by omega) h).of_passes hitem
            · cases h
        · cases h
          exact .malformed _ _
    · cases h
      exact .malformed _ _
  · cases h
    exact .malformed _ _

end Step

theorem accountsFor (fuel : Nat) : AccountsFor fuel := by
  induction fuel with
  | zero =>
      refine ⟨fun hfuel _ => ?_, fun hfuel _ => ?_, fun hfuel _ => ?_⟩
      all_goals omega
  | succ fuel ih => exact ⟨ih.step_value, ih.step_members, ih.step_entries⟩

/-- A fault of a whole text has its reason in the text. -/
theorem accounts_of_parse {s : String} (h : parse s = .error fault) :
    Accounts depthLimit s.toList fault := by
  unfold parse parseChars at h
  split at h
  · cases h
    exact .malformed _ _
  · have hfront := skipBlanks_passes (a := 0) s.toList
    have hlength := hfront.length_add_le
    rcases except_bind_eq_error.mp h with h | ⟨⟨v, rest⟩, _, h⟩
    · exact ((accountsFor _).value (by omega) h).of_passes hfront
    · simp only at h
      split at h
      · cases h
      · cases h
        exact .malformed _ _

end Faults

end Json

end ServerLaunch

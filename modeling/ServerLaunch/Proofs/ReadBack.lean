import Mathlib.Data.List.Forall2
import ServerLaunch.Proofs.Entries
import ServerLaunch.Proofs.JsonText
import ServerLaunch.Proofs.Numeral

/-!
# Reading Back a Value

Which characters a reader of JSON takes for a value.

A reader does not know where a value ends before it comes to the end, so what is said of a value
is said with anything behind it: the reader takes its characters, leaves what is behind, and is
not disturbed by how much there is, as long as it is no part of a number. With that, a list is
read member by member and an object entry by entry, whatever white space stands between two of
them. The steps that a reader makes are fewer than twice the characters it takes.

## Main definitions

* `EndsNumber`: What may come behind a number.
* `StartsScalar`: What a value without members may begin with.
* `ReadsBack`: Characters that are read as a value.
* `EntryReadsBack`: Characters that are read as an entry of an object.

## Theorems

* `readsBack_null`, `readsBack_bool`, `readsBack_int`, `readsBack_text`: Single values.
* `ReadsBack.list`, `ReadsBack.dict`: Collections of what is read back.
-/

namespace ServerLaunch

namespace Json

/-- Characters that a number may go on with. -/
def goesOn (c : Char) : Bool :=
  Text.isAsciiDigit c || c == '.' || (c == 'e' || c == 'E')

/-- What comes behind a number is no part of it. -/
def EndsNumber (rest : List Char) : Prop :=
  ∀ c ∈ rest.head?, goesOn c = false

theorem EndsNumber.cons {c : Char} (h : goesOn c = false) (rest : List Char) :
    EndsNumber (c :: rest) := by
  intro d hd
  rw [← Option.some.inj hd]
  exact h

theorem EndsNumber.head {rest : List Char} (h : EndsNumber rest) {c : Char}
    (hc : c ∈ rest.head?) :
    Text.isAsciiDigit c = false ∧ c ≠ '.' ∧ (c == 'e' || c == 'E') = false := by
  have hgoes := h c hc
  rw [goesOn, Bool.or_eq_false_iff, Bool.or_eq_false_iff, beq_eq_false_iff_ne] at hgoes
  exact ⟨hgoes.1.1, hgoes.1.2, hgoes.2⟩

/-- Characters from which a reader that may go so deep reads a value, whatever comes behind them
    that is no part of a number. They begin with something that is neither white space nor the
    end of a list. -/
structure ReadsBack (depth : Nat) (token : List Char) (v : Value) : Prop where
  starts : ∃ c rest, token = c :: rest ∧ isBlank c = false ∧ c ≠ ']'
  reads : ∀ fuel rest, 2 * token.length ≤ fuel → EndsNumber rest →
    readValue fuel depth (token ++ rest) = .ok (v, rest)

theorem skipBlanks_of_starts {c : Char} (h : isBlank c = false) (rest : List Char) :
    skipBlanks (c :: rest) = c :: rest := by
  rw [skipBlanks, List.dropWhile_cons_of_neg (by rw [h]; exact Bool.false_ne_true)]

theorem skipBlanks_of_readsBack {depth : Nat} {token : List Char} {v : Value}
    (h : ReadsBack depth token v) (rest : List Char) :
    skipBlanks (token ++ rest) = token ++ rest := by
  rcases h.starts with ⟨c, cs, rfl, hblank, _⟩
  exact skipBlanks_of_starts hblank _

variable {depth : Nat}

-- No value is shorter than one character, so there is always a step to be made.
theorem ReadsBack.of_succ {c : Char} {token : List Char} {v : Value} (hblank : isBlank c = false)
    (hend : c ≠ ']')
    (h : ∀ fuel rest, 2 * token.length + 1 ≤ fuel → EndsNumber rest →
      readValue (fuel + 1) depth (c :: (token ++ rest)) = .ok (v, rest)) :
    ReadsBack depth (c :: token) v := by
  refine ⟨⟨c, token, rfl, hblank, hend⟩, fun fuel rest hfuel hrest => ?_⟩
  rw [List.length_cons] at hfuel
  rcases fuel with _ | fuel
  · omega
  · exact h fuel rest (by omega) hrest

/-- A text is read back in every form that spells its characters. -/
theorem readsBack_text {escape : Char → List Char} (hescape : ∀ c, Spells (escape c) c)
    (s : String) : ReadsBack depth ('"' :: (s.toList.flatMap escape ++ ['"'])) (.text s) := by
  refine .of_succ (by decide) (by decide) fun fuel rest _ _ => ?_
  rw [List.append_assoc, List.singleton_append, readValue, readText_of_spells hescape]
  simp only [Except.map, String.ofList_toList]

/-- Characters that a value without members may begin with: no white space, no quote and no
    bracket. -/
def StartsScalar (c : Char) : Prop :=
  isBlank c = false ∧ c ∉ [']', '"', '[', '\x7b']

instance (c : Char) : Decidable (StartsScalar c) :=
  inferInstanceAs (Decidable (_ ∧ _))

/-- Such characters are left to the reader of values without members. -/
theorem readValue_of_startsScalar {c : Char} (hc : StartsScalar c) (fuel : Nat) (cs : List Char) :
    readValue (fuel + 1) depth (c :: cs) = readScalar (c :: cs) := by
  have hsign := hc.2
  simp only [List.mem_cons, List.not_mem_nil, or_false, not_or] at hsign
  rw [readValue]
  all_goals simp_all

theorem readsBack_scalar {c : Char} {token : List Char} {v : Value} (hc : StartsScalar c)
    (h : ∀ rest, EndsNumber rest → readScalar (c :: (token ++ rest)) = .ok (v, rest)) :
    ReadsBack depth (c :: token) v := by
  refine .of_succ hc.1 (fun hend => hc.2 (hend ▸ List.mem_cons_self)) fun fuel rest _ hrest => ?_
  rw [readValue_of_startsScalar hc]
  exact h rest hrest

theorem readsBack_null : ReadsBack depth nullToken .null :=
  readsBack_scalar (by decide) fun _ _ => rfl

theorem readsBack_bool (b : Bool) : ReadsBack depth (boolToken b) (.bool b) := by
  cases b with
  | false => exact readsBack_scalar (by decide) fun _ _ => rfl
  | true => exact readsBack_scalar (by decide) fun _ _ => rfl

theorem ne_of_isAsciiDigit {c d : Char} (h : Text.isAsciiDigit c = true)
    (hd : Text.isAsciiDigit d = false) : c ≠ d := by
  rintro rfl
  rw [h] at hd
  exact absurd hd (by decide)

theorem startsScalar_of_isAsciiDigit {c : Char} (h : Text.isAsciiDigit c = true) :
    StartsScalar c := by
  have hne : ∀ d, Text.isAsciiDigit d = false → c ≠ d := fun _ => ne_of_isAsciiDigit h
  simp only [StartsScalar, isBlank, Bool.or_eq_false_iff, beq_eq_false_iff_ne, List.mem_cons,
    List.not_mem_nil, or_false, not_or]
  exact ⟨⟨⟨⟨hne _ (by decide), hne _ (by decide)⟩, hne _ (by decide)⟩, hne _ (by decide)⟩,
    hne _ (by decide), hne _ (by decide), hne _ (by decide), hne _ (by decide)⟩

-- Minus infinity is the one word that begins with a minus sign.
theorem find?_words_number {c : Char} (h : Text.isAsciiDigit c = true) (rest : List Char) :
    words.find? (fun (word, _) => word.isPrefixOf (c :: rest)) = none ∧
      words.find? (fun (word, _) => word.isPrefixOf ('-' :: c :: rest)) = none := by
  have hne : ∀ d, Text.isAsciiDigit d = false → (d == c) = false := fun d hd =>
    beq_eq_false_iff_ne.mpr (ne_of_isAsciiDigit h hd).symm
  have hI := hne 'I' (by decide)
  constructor
  · simp only [words, List.find?, List.isPrefixOf, hne 'n' (by decide), hne 't' (by decide),
      hne 'f' (by decide), hne 'N' (by decide), hI, hne '-' (by decide), Bool.false_and]
  · simp only [words, List.find?, List.isPrefixOf, hI, Bool.false_and, Bool.and_false]
    rfl

/-- The digits of a number are read as its whole part. -/
theorem wholePart?_toDigits (n : Nat) {rest : List Char} (hrest : EndsNumber rest) :
    wholePart? (Nat.toDigits 10 n ++ rest) = some (Nat.toDigits 10 n, rest) := by
  rcases Nat.eq_zero_or_pos n with rfl | hpos
  · rfl
  · have hspan := @Numeral.spanDigits_append (Nat.toDigits 10 n) rest
      (fun c hc => Numeral.isAsciiDigit_of_mem_toDigits hc) fun c hc => (hrest.head hc).1
    have hhead := Numeral.head?_toDigits_ne hpos
    rcases hds : Nat.toDigits 10 n with _ | ⟨d, ds⟩
    · exact absurd hds Nat.toDigits_ne_nil
    · rw [hds] at hspan hhead
      have hd : d ≠ '0' := fun heq => hhead (congrArg some heq)
      rw [List.cons_append] at hspan ⊢
      rw [wholePart?]
      · simp only [hspan, List.isEmpty_cons, Bool.false_eq_true, if_false]
      · simp_all

theorem fractionPart_of_ends {rest : List Char} (h : EndsNumber rest) :
    fractionPart rest = ([], rest) := by
  unfold fractionPart
  split
  · exact absurd rfl (h.head rfl).2.1
  · rfl

theorem exponentPart_of_ends {rest : List Char} (h : EndsNumber rest) :
    exponentPart rest = (none, rest) := by
  unfold exponentPart
  split
  · next c rest => rw [(h.head rfl).2.2, if_neg Bool.false_ne_true]
  · rfl

theorem toDigits_eq_cons (n : Nat) :
    ∃ d ds, Nat.toDigits 10 n = d :: ds ∧ Text.isAsciiDigit d = true := by
  rcases hds : Nat.toDigits 10 n with _ | ⟨d, ds⟩
  · exact absurd hds Nat.toDigits_ne_nil
  · exact ⟨d, ds, rfl, Numeral.isAsciiDigit_of_mem_toDigits (hds ▸ List.mem_cons_self)⟩

/-- A whole number is read back, with a minus sign and without one, unless it is too long. -/
theorem readNumber?_intChars (i : Int) {rest : List Char} (hrest : EndsNumber rest) :
    readNumber? (Numeral.intChars i ++ rest) =
      some (if Numeral.isTooLong i then .error (.tooLong (Nat.toDigits 10 i.natAbs).length)
        else .ok (.int i, rest)) := by
  have hwhole := wholePart?_toDigits i.natAbs hrest
  have hlength : (Nat.toDigits 10 i.natAbs).length > Numeral.digitLimit ↔
      Numeral.isTooLong i = true := by
    rw [← Bool.not_eq_false, Numeral.isTooLong_iff, gt_iff_lt, Nat.not_le]
  have hvalue := Numeral.natOfDigits_toDigits i.natAbs
  rcases toDigits_eq_cons i.natAbs with ⟨d, ds, hds, hd⟩
  rw [hds, List.cons_append] at hwhole
  rw [hds] at hlength hvalue ⊢
  -- The same is read behind the sign as without one.
  unfold readNumber?
  by_cases hneg : i < 0
  · simp only [Numeral.intChars, hneg, hds, if_true, List.cons_append, hwhole, Option.map_some,
      fractionPart_of_ends hrest, exponentPart_of_ends hrest, List.isEmpty_nil,
      Option.isNone_none, Bool.and_self, hlength]
    rw [hvalue, Int.ofNat_natAbs_of_nonpos (by omega), Int.neg_neg]
  · simp only [Numeral.intChars, hneg, hds, if_false, List.cons_append]
    split
    · next heq =>
        exact absurd (List.cons.inj heq).1 (ne_of_isAsciiDigit hd (by decide))
    · simp only [hwhole, Option.map_some, fractionPart_of_ends hrest, exponentPart_of_ends hrest,
        List.isEmpty_nil, Option.isNone_none, Bool.and_self, if_true, Bool.false_eq_true, if_false,
        hlength]
      rw [hvalue, Int.natAbs_of_nonneg (by omega)]

theorem readScalar_intChars (i : Int) {rest : List Char} (hrest : EndsNumber rest) :
    readScalar (Numeral.intChars i ++ rest) =
      if Numeral.isTooLong i then .error (.tooLong (Nat.toDigits 10 i.natAbs).length)
      else .ok (.number (.int i), rest) := by
  have hwords : words.find? (fun (word, _) => word.isPrefixOf (Numeral.intChars i ++ rest)) =
      none := by
    rcases toDigits_eq_cons i.natAbs with ⟨d, ds, hds, hd⟩
    have hnone := find?_words_number hd (ds ++ rest)
    rw [Numeral.intChars, hds]
    split
    · exact hnone.2
    · exact hnone.1
  rw [readScalar]
  simp only [hwords, readNumber?_intChars i hrest]
  split <;> rfl

theorem startsScalar_intChars (i : Int) :
    ∃ c cs, Numeral.intChars i = c :: cs ∧ StartsScalar c := by
  rcases toDigits_eq_cons i.natAbs with ⟨d, ds, hds, hd⟩
  rw [Numeral.intChars, hds]
  split
  · exact ⟨'-', d :: ds, rfl, by decide⟩
  · exact ⟨d, ds, rfl, startsScalar_of_isAsciiDigit hd⟩

theorem readsBack_int {i : Int} (h : Numeral.isTooLong i = false) :
    ReadsBack depth (Numeral.intChars i) (.number (.int i)) := by
  have hread : ∀ rest, EndsNumber rest → readScalar (Numeral.intChars i ++ rest) =
      .ok (.number (.int i), rest) := by
    intro rest hrest
    rw [readScalar_intChars i hrest, h, if_neg Bool.false_ne_true]
  rcases startsScalar_intChars i with ⟨c, cs, hchars, hc⟩
  rw [hchars] at hread ⊢
  exact readsBack_scalar hc hread

/-! ## Collections -/

theorem intercalate_cons_append (sep token : List Char) (tokens : List (List Char))
    (rest : List Char) :
    ∃ after, sep.intercalate (token :: tokens) ++ rest = token ++ after := by
  rcases tokens with _ | ⟨next, tokens⟩
  · exact ⟨rest, by rw [List.intercalate_singleton]⟩
  · exact ⟨_, by rw [List.intercalate_cons_cons, List.append_assoc, List.append_assoc]⟩

theorem skipBlanks_append {gap : List Char} (hgap : ∀ c ∈ gap, isBlank c = true)
    (rest : List Char) : skipBlanks (gap ++ rest) = skipBlanks rest :=
  List.dropWhile_append_of_pos hgap

section Gap

variable {gap : List Char} {tokens : List (List Char)} {vs : List Value}

theorem skipBlanks_members (h : List.Forall₂ (ReadsBack depth) tokens vs) (hsome : tokens ≠ [])
    (sep rest : List Char) :
    skipBlanks (sep.intercalate tokens ++ rest) = sep.intercalate tokens ++ rest := by
  cases h with
  | nil => exact absurd rfl hsome
  | @cons token v tokens vs htoken htokens =>
      rcases intercalate_cons_append sep token tokens rest with ⟨after, hafter⟩
      rw [hafter, skipBlanks_of_readsBack htoken]

/-- Members with white space behind each comma are read up to the bracket behind the last. -/
theorem readMembers_tokens (hgap : ∀ c ∈ gap, isBlank c = true)
    (h : List.Forall₂ (ReadsBack depth) tokens vs) (hsome : tokens ≠ []) {fuel : Nat}
    (rest : List Char) (hfuel : 2 * ((',' :: gap).intercalate tokens).length + 1 ≤ fuel) :
    readMembers fuel depth ((',' :: gap).intercalate tokens ++ ']' :: rest) = .ok (vs, rest) := by
  induction h generalizing fuel with
  | nil => exact absurd rfl hsome
  | @cons token v tokens vs htoken htokens ih =>
      rcases fuel with _ | fuel
      · omega
      rcases tokens with _ | ⟨next, tokens⟩
      · rw [List.intercalate_singleton] at hfuel ⊢
        rw [readMembers, htoken.reads fuel _ (by omega) (.cons rfl _)]
        cases htokens
        rfl
      · have hnext := List.cons_ne_nil next tokens
        rw [List.intercalate_cons_cons] at hfuel ⊢
        simp only [List.length_append, List.length_cons] at hfuel
        -- One step is spent on this member, and the next ones have less to read.
        have hread := @ih hnext fuel (by omega)
        rw [readMembers, List.append_assoc, List.append_assoc, List.cons_append,
          htoken.reads fuel _ (by omega) (.cons rfl _)]
        simp only [bind, Except.bind, skipBlanks_of_starts (c := ',') (by decide),
          skipBlanks_append hgap, skipBlanks_members htokens hnext, hread]

end Gap

/-- A list is read back if its members are, with white space behind the commas or without. -/
theorem ReadsBack.list {gap : List Char} (hgap : ∀ c ∈ gap, isBlank c = true)
    {tokens : List (List Char)} {vs : List Value} (h : List.Forall₂ (ReadsBack depth) tokens vs) :
    ReadsBack (depth + 1) ('[' :: ((',' :: gap).intercalate tokens ++ [']'])) (.list vs) := by
  refine .of_succ (by decide) (by decide) fun fuel rest hfuel _ => ?_
  rw [List.length_append, List.length_singleton] at hfuel
  rw [List.append_assoc, List.singleton_append, readValue]
  cases h with
  | nil => rfl
  | @cons token v tokens vs htoken htokens =>
      have hsome := List.cons_ne_nil token tokens
      rw [skipBlanks_members (.cons htoken htokens) hsome]
      split
      · next heq =>
          -- No member begins with the bracket that ends the list.
          rcases htoken.starts with ⟨c, cs, rfl, _, hend⟩
          rcases intercalate_cons_append (',' :: gap) (c :: cs) tokens (']' :: rest) with
            ⟨after, hafter⟩
          rw [hafter] at heq
          exact absurd (List.cons.inj heq).1 hend
      · rw [readMembers_tokens hgap (.cons htoken htokens) hsome rest (by omega)]
        rfl

/-- Characters that are read as an entry of an object: a text, a colon and the characters of the
    value, with nothing between them. -/
def EntryReadsBack (depth : Nat) (token : List Char) (e : Value × Value) : Prop :=
  ∃ name value, token = textToken name.toList ++ ':' :: value ∧ e.1 = .text name ∧
    ReadsBack depth value e.2

/-- Behind an entry a reader stops at the bracket, or goes on behind a comma. -/
theorem EntryReadsBack.reads {token : List Char} {e : Value × Value}
    (h : EntryReadsBack depth token e) {fuel : Nat} (hfuel : 2 * token.length ≤ fuel)
    {rest : List Char} (hrest : EndsNumber rest) :
    readEntries (fuel + 1) depth (token ++ rest) =
      match skipBlanks rest with
      | '\x7d' :: rest => .ok ([e], rest)
      | ',' :: rest =>
        (readEntries fuel depth (skipBlanks rest)).map fun (es, rest) => (e :: es, rest)
      | rest => .error (.malformed .comma rest.length) := by
  rcases e with ⟨key, v⟩
  rcases h with ⟨name, value, rfl, rfl, hvalue⟩
  simp only [textToken, List.length_append, List.length_cons] at hfuel
  have hread := hvalue.reads fuel rest (by omega) hrest
  simp only [textToken, List.cons_append, List.append_assoc, List.nil_append, readEntries,
    readText_of_spells spells_escapeChar, bind, Except.bind,
    skipBlanks_of_starts (c := ':') (by decide), skipBlanks_of_readsBack hvalue, hread,
    String.ofList_toList]
  rfl

/-- Entries begin with the quote of the first name. -/
theorem EntryReadsBack.tokens_eq_cons {tokens : List (List Char)} {es : Entries}
    (h : List.Forall₂ (EntryReadsBack depth) tokens es) (hsome : tokens ≠ []) (rest : List Char) :
    ∃ after, commaTokens tokens ++ rest = '"' :: after := by
  cases h with
  | nil => exact absurd rfl hsome
  | @cons token e tokens es htoken htokens =>
      rcases htoken with ⟨name, value, rfl, _, _⟩
      rcases intercalate_cons_append [','] (textToken name.toList ++ ':' :: value) tokens rest with
        ⟨after, hafter⟩
      exact ⟨_, hafter⟩

/-- Entries are read up to the bracket behind the last. -/
theorem readEntries_tokens {tokens : List (List Char)} {es : Entries}
    (h : List.Forall₂ (EntryReadsBack depth) tokens es) (hsome : tokens ≠ []) {fuel : Nat}
    (rest : List Char) (hfuel : 2 * (commaTokens tokens).length + 1 ≤ fuel) :
    readEntries fuel depth (commaTokens tokens ++ '\x7d' :: rest) = .ok (es, rest) := by
  induction h generalizing fuel with
  | nil => exact absurd rfl hsome
  | @cons token e tokens es htoken htokens ih =>
      rcases fuel with _ | fuel
      · omega
      rcases tokens with _ | ⟨next, tokens⟩
      · rw [commaTokens, List.intercalate_singleton] at hfuel ⊢
        cases htokens
        rw [htoken.reads (by omega) (.cons rfl _), skipBlanks_of_starts (by decide)]
        rfl
      · have hnext := List.cons_ne_nil next tokens
        rw [commaTokens, List.intercalate_cons_cons] at hfuel ⊢
        simp only [List.length_append, List.length_cons] at hfuel
        have hread := @ih hnext fuel (by rw [commaTokens]; omega)
        rcases EntryReadsBack.tokens_eq_cons htokens hnext ('\x7d' :: rest) with ⟨after, hafter⟩
        rw [List.append_assoc, List.append_assoc, List.singleton_append,
          htoken.reads (by omega) (.cons rfl _), skipBlanks_of_starts (by decide)]
        -- The next entry begins at once, so there is nothing to skip.
        change (readEntries fuel depth
          (skipBlanks (commaTokens (next :: tokens) ++ '\x7d' :: rest))).map _ = _
        rw [hafter, skipBlanks_of_starts (by decide), ← hafter, hread]
        rfl

/-- An object is read back if its entries are and no name comes twice. -/
theorem ReadsBack.dict {tokens : List (List Char)} {es : Entries}
    (h : List.Forall₂ (EntryReadsBack depth) tokens es) (hdistinct : es.Distinct) :
    ReadsBack (depth + 1) ('\x7b' :: (commaTokens tokens ++ ['\x7d'])) (.dict es) := by
  refine .of_succ (by decide) (by decide) fun fuel rest hfuel _ => ?_
  rw [List.length_append, List.length_singleton] at hfuel
  rw [List.append_assoc, List.singleton_append, readValue]
  rcases tokens with _ | ⟨token, tokens⟩
  · cases h
    rfl
  · have hsome := List.cons_ne_nil token tokens
    rcases EntryReadsBack.tokens_eq_cons h hsome ('\x7d' :: rest) with ⟨after, hafter⟩
    have hread := @readEntries_tokens _ _ _ h hsome fuel rest (by omega)
    rw [hafter] at hread ⊢
    rw [skipBlanks_of_starts (by decide)]
    split
    · next heq => exact absurd (List.cons.inj heq).1 (by decide)
    · simp only [hread, Except.map, Entries.ofPairs_of_distinct hdistinct]

/-! ## Whole texts -/

/-- A value is all that a text says if nothing but white space comes behind it. -/
theorem parseChars_of_readsBack {token : List Char} {v : Value} (h : ReadsBack depthLimit token v)
    (hmark : ∀ c ∈ token.head?, c ≠ '\uFEFF') {blanks : List Char}
    (hblanks : ∀ c ∈ blanks, isBlank c = true) : parseChars (token ++ blanks) = .ok v := by
  have hends : EndsNumber blanks := by
    intro c hc
    have hblank := hblanks c (List.mem_of_mem_head? hc)
    simp only [isBlank, Bool.or_eq_true, beq_iff_eq] at hblank
    rcases hblank with ((rfl | rfl) | rfl) | rfl <;> rfl
  have hread := h.reads (2 * (token ++ blanks).length + 2) blanks
    (by rw [List.length_append]; omega) hends
  have hskip : skipBlanks blanks = [] := by
    rw [← List.append_nil blanks, skipBlanks_append hblanks]
    rfl
  unfold parseChars
  split
  · next heq =>
      rcases h.starts with ⟨c, cs, rfl, _, _⟩
      exact absurd (List.cons.inj heq).1 (hmark c rfl)
  · rw [skipBlanks_of_readsBack h, hread]
    simp only [bind, Except.bind, hskip]

end Json

end ServerLaunch

import Mathlib
import ServerLaunch.Capabilities.Option
import ServerLaunch.Capabilities.Token
import ServerLaunch.Proofs.Action
import ServerLaunch.Proofs.JsonReading
import ServerLaunch.Proofs.ReadBack

/-!
# Capabilities Survive JSON

That a capability set is read back as it was written.

JSON has a form for null, truth values, numbers, texts, lists, and objects whose names are texts.
A set that is made of these, floating point numbers left out, is written as one token from which
the same set is read: the same names in the same order with the same values at every level. What
a reader gives is such a set, unless there is a floating point number in it; so to write what was
read and to read it again changes nothing.

## Main definitions

* `Json.Native`: Values that JSON has a form for.
* `Value.hasFloat`: Values with a floating point number in them.

## Theorems

* `Json.write_readsBack`: What is written is read back.
* `Json.native_of_parse`: What is read can be written.
* `Capabilities.jsonToken_roundTrip`: Writing and reading capabilities.
-/

namespace ServerLaunch

namespace Value

mutual

/-- Whether a value is a floating point number, or has one somewhere in it. -/
def hasFloat : Value → Bool
  | .number (.float _) => true
  | .list vs | .tuple vs | .set vs => membersHaveFloat vs
  | .dict es | .caps es => entriesHaveFloat es
  | _ => false
termination_by structural v => v

/-- The same for members. -/
def membersHaveFloat : List Value → Bool
  | [] => false
  | v :: vs => v.hasFloat || membersHaveFloat vs
termination_by structural vs => vs

/-- The same for entries. -/
def entriesHaveFloat : List (Value × Value) → Bool
  | [] => false
  | (k, v) :: es => k.hasFloat || v.hasFloat || entriesHaveFloat es
termination_by structural es => es

end

theorem hasFloat_of_mem {vs : List Value} (h : membersHaveFloat vs = false) {v : Value}
    (hv : v ∈ vs) : v.hasFloat = false := by
  induction vs with
  | nil => exact absurd hv List.not_mem_nil
  | cons u vs ih =>
      rw [membersHaveFloat, Bool.or_eq_false_iff] at h
      rcases List.mem_cons.mp hv with rfl | hv
      · exact h.1
      · exact ih h.2 hv

theorem hasFloat_of_mem_entries {es : Entries} (h : entriesHaveFloat es = false)
    {e : Value × Value} (he : e ∈ es) : e.2.hasFloat = false := by
  induction es with
  | nil => exact absurd he List.not_mem_nil
  | cons f es ih =>
      rcases f with ⟨k, v⟩
      rw [entriesHaveFloat, Bool.or_eq_false_iff, Bool.or_eq_false_iff] at h
      rcases List.mem_cons.mp he with rfl | he
      · exact h.1.2
      · exact ih h.2 he

end Value

namespace Json

/-- The values that JSON has a form for, floating point numbers left out. They nest no deeper
    than the given depth, whole numbers are not too long to be written, and an object has texts
    for names, none of them twice. -/
inductive Native : (depth : Nat) → Value → Prop
  | null {depth : Nat} : Native depth .null
  | bool {depth : Nat} (b : Bool) : Native depth (.bool b)
  | int {depth : Nat} {i : Int} (h : Numeral.isTooLong i = false) : Native depth (.number (.int i))
  | text {depth : Nat} (s : String) : Native depth (.text s)
  | list {depth : Nat} {vs : List Value} (h : ∀ v ∈ vs, Native depth v) :
      Native (depth + 1) (.list vs)
  | dict {depth : Nat} {es : Entries} (hnames : ∀ e ∈ es, ∃ s, e.1 = .text s)
      (hdistinct : es.Distinct) (h : ∀ e ∈ es, Native depth e.2) : Native (depth + 1) (.dict es)

/-! ## What is written is read -/

variable {depth : Nat}

/-- Members that are written, each in some relation to its token, are written one by one. -/
theorem writeMembers_of_forall {R : List Char → Value → Prop} {vs : List Value}
    (h : ∀ v ∈ vs, ∃ token, write v = .ok token ∧ R token v) :
    ∃ tokens, writeMembers vs = .ok tokens ∧ List.Forall₂ R tokens vs := by
  induction vs with
  | nil => exact ⟨[], rfl, .nil⟩
  | cons v vs ih =>
      rcases h v List.mem_cons_self with ⟨token, hwrite, hR⟩
      rcases ih fun u hu => h u (List.mem_cons_of_mem _ hu) with ⟨tokens, hwriteAll, hRAll⟩
      exact ⟨token :: tokens, by rw [writeMembers, hwrite, hwriteAll]; rfl, .cons hR hRAll⟩

/-- So are entries whose names are texts. -/
theorem writeEntries_of_forall {R : List Char → Value → Prop} {es : Entries}
    (hnames : ∀ e ∈ es, ∃ s, e.1 = .text s)
    (h : ∀ e ∈ es, ∃ token, write e.2 = .ok token ∧ R token e.2) :
    ∃ tokens, writeEntries es = .ok tokens ∧ List.Forall₂ (fun token e => ∃ name value,
      token = textToken name.toList ++ ':' :: value ∧ e.1 = .text name ∧ R value e.2)
        tokens es := by
  induction es with
  | nil => exact ⟨[], rfl, .nil⟩
  | cons e es ih =>
      rcases e with ⟨key, v⟩
      rcases hnames _ List.mem_cons_self with ⟨name, rfl⟩
      rcases h _ List.mem_cons_self with ⟨token, hwrite, hR⟩
      rcases ih (fun e he => hnames e (List.mem_cons_of_mem _ he)) fun e he =>
        h e (List.mem_cons_of_mem _ he) with ⟨tokens, hwriteAll, hRAll⟩
      refine ⟨(textToken name.toList ++ ':' :: token) :: tokens, ?_, .cons ?_ hRAll⟩
      · rw [writeEntries, nameToken, hwrite, hwriteAll]
        rfl
      · exact ⟨name, token, rfl, rfl, hR⟩

/-- A value that JSON has a form for is written, and what is written is read back. -/
theorem write_readsBack {v : Value} (h : Native depth v) :
    ∃ token, write v = .ok token ∧ ReadsBack depth token v := by
  induction h with
  | null => exact ⟨_, rfl, readsBack_null⟩
  | bool b => exact ⟨_, rfl, readsBack_bool b⟩
  | int h => exact ⟨_, rfl, readsBack_int h⟩
  | text s => exact ⟨_, rfl, readsBack_text spells_escapeChar s⟩
  | list _ ih =>
      rcases writeMembers_of_forall ih with ⟨tokens, hwrite, hreads⟩
      exact ⟨_, by rw [write, hwrite]; rfl, .list (List.forall_mem_nil _) hreads⟩
  | dict hnames hdistinct _ ih =>
      rcases writeEntries_of_forall hnames ih with ⟨tokens, hwrite, hreads⟩
      exact ⟨_, by rw [write, hwrite]; rfl, .dict hreads hdistinct⟩

/-! ## What is read can be written -/

theorem natAbs_signed (negative : Bool) (n : Nat) :
    (if negative then -(n : Int) else n).natAbs = n := by
  cases negative with
  | false => exact Int.natAbs_natCast n
  | true => exact (Int.natAbs_neg n).trans (Int.natAbs_natCast n)

-- The reader and the writer have one limit, but one counts digits and the other compares numbers.
theorem isTooLong_of_readNumber? {cs rest : List Char} {i : Int}
    (h : readNumber? cs = some (.ok (.int i, rest))) : Numeral.isTooLong i = false := by
  unfold readNumber? at h
  simp only [Option.map_eq_some_iff] at h
  rcases h with ⟨⟨ds, after⟩, hwhole, h⟩
  have hdigits := Numeral.natOfDigits_lt (eq_append_of_wholePart? hwhole).2.1
  split at h
  · split at h
    · cases h
    · next hlength =>
        have hvalue := Number.int.inj (Prod.mk.inj (Except.ok.inj h)).1
        rw [Numeral.isTooLong, decide_eq_false_iff_not, Nat.not_le, ← hvalue, natAbs_signed,
          Nat.pow_eq]
        generalize Numeral.digitLimit = limit at hlength ⊢
        exact hdigits.trans_le (Nat.pow_le_pow_right (by decide) (Nat.not_lt.mp hlength))
  · exact Number.noConfusion (Prod.mk.inj (Except.ok.inj h)).1

theorem native_of_readScalar {cs rest : List Char} {v : Value}
    (h : readScalar cs = .ok (v, rest)) (hfloat : v.hasFloat = false) : Native depth v := by
  unfold readScalar at h
  split at h
  · next word w hword =>
      have hmem := List.mem_of_find?_eq_some hword
      rw [← (Prod.mk.inj (Except.ok.inj h)).1] at hfloat ⊢
      simp only [words, List.mem_cons, Prod.mk.injEq, List.not_mem_nil, or_false] at hmem
      rcases hmem with ⟨_, rfl⟩ | ⟨_, rfl⟩ | ⟨_, rfl⟩ | ⟨_, rfl⟩ | ⟨_, rfl⟩ | ⟨_, rfl⟩
      · exact .null
      · exact .bool true
      · exact .bool false
      all_goals cases hfloat
  · split at h
    · next result hnumber =>
        rcases result with fault | ⟨n, after⟩
        · cases h
        · rw [← (Prod.mk.inj (Except.ok.inj h)).1] at hfloat ⊢
          cases n with
          | int i => exact .int (isTooLong_of_readNumber? hnumber)
          | float x => cases hfloat
    · cases h

/-- Whatever is read can be written unless it has floating point numbers. -/
theorem readClosed_native : ReadClosed fun depth v => v.hasFloat = false → Native depth v where
  scalar h hfloat := native_of_readScalar h hfloat
  text s _ := .text s
  list h hfloat := by
    rw [Value.hasFloat] at hfloat
    exact .list fun u hu => h u hu (Value.hasFloat_of_mem hfloat hu)
  dict {depth es} h hfloat := by
    rw [Value.hasFloat] at hfloat
    -- A name may come twice with a number that is lost, so it is the object that counts.
    have hentries : ∀ e ∈ Entries.ofPairs es,
        (∃ s, e.1 = .text s) ∧ (e.2.hasFloat = false → Native depth e.2) :=
      @Entries.forall_ofPairs (fun k => ∃ s, k = .text s)
        (fun u => u.hasFloat = false → Native depth u) es h
    exact .dict (fun e he => (hentries e he).1) (Entries.distinct_ofPairs es)
      fun e he => (hentries e he).2 (Value.hasFloat_of_mem_entries hfloat he)

theorem native_of_parse {s : String} {v : Value} (h : parse s = .ok v)
    (hfloat : v.hasFloat = false) : Native depthLimit v :=
  readClosed_native.of_parse h hfloat

/-- What is no collection is not an object. -/
theorem readScalar_ne_dict (cs rest : List Char) (es : Entries) :
    readScalar cs ≠ .ok (.dict es, rest) := by
  have hwords : ∀ e ∈ words, e.2.entries?.isNone := by decide
  intro h
  unfold readScalar at h
  split at h
  · next word v hfind =>
      cases h
      exact absurd (hwords _ (List.mem_of_find?_eq_some hfind)) Bool.false_ne_true
  · split at h
    · rcases except_map_eq_ok.mp h with ⟨_, _, hv⟩
      cases hv
    · cases h

/-- An object that is read has no name twice, whatever the text. -/
theorem readClosed_distinct : ReadClosed fun _ v => ∀ es, v = .dict es → Entries.Distinct es where
  scalar h es hes := absurd (hes ▸ h) (readScalar_ne_dict _ _ es)
  text _ _ h := by cases h
  list _ _ h := by cases h
  dict _ _ h := by
    cases h
    exact Entries.distinct_ofPairs _

theorem distinct_of_parse {s : String} {es : Entries} (h : parse s = .ok (.dict es)) :
    Entries.Distinct es :=
  readClosed_distinct.of_parse h es rfl

end Json

namespace Capabilities

/-- A set that JSON has a form for is written as one token and read back from it. -/
theorem readCapabilities_jsonToken {es : Entries} (h : Json.Native Json.depthLimit (.dict es)) :
    ∃ token, jsonToken (some es) = .ok token ∧ readCapabilities token = .ok es := by
  rcases Json.write_readsBack h with ⟨token, hwrite, hreads⟩
  have hmark : ∀ c ∈ token.head?, c ≠ '\uFEFF' := by
    rcases except_map_eq_ok.mp (by rw [← hwrite, Json.write]) with ⟨tokens, _, rfl⟩
    intro c hc
    rw [← Option.some.inj hc]
    decide
  have hparse := Json.parseChars_of_readsBack hreads hmark (List.forall_mem_nil _)
  rw [List.append_nil] at hparse
  refine ⟨String.ofList token, by rw [jsonToken, hwrite, Except.map], ?_⟩
  rw [readCapabilities, Json.parse, String.toList_ofList, hparse]

/-- Capabilities survive the command line. A set that JSON has a form for is written as one token
    from which the same set is read, names and values in the same order at every level. A set that
    was read, without floating point numbers, is written and read again as it is; and no two sets
    are written as one token. -/
theorem jsonToken_roundTrip :
    (∀ es, Json.Native Json.depthLimit (.dict es) →
      ∃ token, jsonToken (some es) = .ok token ∧ readCapabilities token = .ok es) ∧
    (∀ s es, readCapabilities s = .ok es → Value.hasFloat (.dict es) = false →
      ∃ token, jsonToken (some es) = .ok token ∧ readCapabilities token = .ok es) ∧
    ∀ es fs token, Json.Native Json.depthLimit (.dict es) → Json.Native Json.depthLimit (.dict fs) →
      jsonToken (some es) = .ok token → jsonToken (some fs) = .ok token → es = fs := by
  refine ⟨fun es h => readCapabilities_jsonToken h, fun s es hread hfloat => ?_,
    fun es fs token hes hfs htokenes htokenfs => ?_⟩
  · unfold readCapabilities at hread
    split at hread
    · next hparse =>
        rw [← Except.ok.inj hread] at hfloat ⊢
        exact readCapabilities_jsonToken (Json.native_of_parse hparse hfloat)
    all_goals cases hread
  · rcases readCapabilities_jsonToken hes with ⟨token₁, hwrite₁, hread₁⟩
    rcases readCapabilities_jsonToken hfs with ⟨token₂, hwrite₂, hread₂⟩
    rw [← Except.ok.inj (htokenes.symm.trans hwrite₁)] at hread₁
    rw [← Except.ok.inj (htokenfs.symm.trans hwrite₂)] at hread₂
    exact Except.ok.inj (hread₁.symm.trans hread₂)

/-- A set whose values nest, with a quote, a backslash, control characters and a character above
    U+FFFF. -/
def nestedSample : Entries :=
  [(.text "name", .text "say \"hi\"\\\n\x01"),
   (.text "ä😀", .list [.null, .bool true, .int (-12), .dict [(.text "", .list [])]])]

theorem native_nestedSample : Json.Native Json.depthLimit (.dict nestedSample) := by
  have hinner : Json.Native (Json.depthLimit - 2) (.dict [(.text "", .list [])]) :=
    .dict (List.forall_mem_singleton.mpr ⟨"", rfl⟩) (List.pairwise_singleton _ _)
      (List.forall_mem_singleton.mpr (.list (List.forall_mem_nil _)))
  have hint : Json.Native (Json.depthLimit - 2) (.int (-12)) :=
    .int (Numeral.isTooLong_iff.mpr (by decide))
  refine .dict ?_ ?_ ?_
  · exact List.forall_mem_cons.mpr ⟨⟨_, rfl⟩, List.forall_mem_singleton.mpr ⟨_, rfl⟩⟩
  · exact List.pairwise_pair.mpr (by cbv)
  · refine List.forall_mem_cons.mpr ⟨.text _, List.forall_mem_singleton.mpr (.list ?_)⟩
    simp only [List.forall_mem_cons]
    exact ⟨.null, .bool true, hint, hinner, List.forall_mem_nil _⟩

/-- The token of the set. -/
def nestedToken : String :=
  "\x7b\"name\":\"say \\\"hi\\\"\\\\\\n\\u0001\",\"ä😀\":[null,true,-12,\x7b\"\":[]\x7d]\x7d"

/-- A text with blanks in it and a name that comes twice. -/
def repeatingText : String :=
  "\x7b\"a\": true, \"b\": [null], \"a\": \"x\"\x7d"

/-- The set that is read from the text. -/
def repeatedSample : Entries :=
  [(.text "a", .text "x"), (.text "b", .list [.null])]

/-- One set is written and read; another one is read, written and read; and they have different
    tokens. -/
theorem jsonToken_roundTrip_nested :
    (jsonToken (some nestedSample) = .ok nestedToken ∧
      readCapabilities nestedToken = .ok nestedSample) ∧
    (readCapabilities repeatingText = .ok repeatedSample ∧
      Value.hasFloat (.dict repeatedSample) = false ∧
      ∃ token, jsonToken (some repeatedSample) = .ok token ∧
        readCapabilities token = .ok repeatedSample) ∧
    jsonToken (some repeatedSample) ≠ jsonToken (some nestedSample) := by
  have htoken : jsonToken (some nestedSample) = .ok nestedToken := by cbv
  have hread : readCapabilities repeatingText = .ok repeatedSample := by cbv
  have hfloat : Value.hasFloat (.dict repeatedSample) = false := by decide
  rcases jsonToken_roundTrip.1 _ native_nestedSample with ⟨token, hwrite, hback⟩
  rw [Except.ok.inj (hwrite.symm.trans htoken)] at hback
  refine ⟨⟨htoken, hback⟩, ⟨hread, hfloat, jsonToken_roundTrip.2.1 _ _ hread hfloat⟩,
    fun hsame => ?_⟩
  have hparse : Json.parse repeatingText = .ok (.dict repeatedSample) := by cbv
  have heq := jsonToken_roundTrip.2.2 _ _ _ (Json.native_of_parse hparse hfloat)
    native_nestedSample (hsame.trans htoken) htoken
  have hname := Value.text.inj (Prod.mk.inj (List.cons.inj heq).1).1
  exact absurd hname (by decide)

end Capabilities

end ServerLaunch

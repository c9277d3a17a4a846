import ServerLaunch.Capabilities.Token
import ServerLaunch.Proofs.Numeral
import ServerLaunch.Value.Identity

/-!
# Reading the Form with Escaped Quotes

That capabilities in the form with escaped quotes cannot be taken for others.

The form escapes nothing between its quotes, so a text with the right characters in it might end
its quotes early and go on as another capability. That takes a backslash, since every quote of
the form has one in front. Where no name and no text has a backslash, those in front of the quotes
are the only ones, and each of them says where a name or a text begins or ends, whatever other
characters there are: quotes, commas, colons, braces or line breaks. Values that stand without
quotes have neither a comma nor a brace in them, so they end where the next one of these comes.

A path may have backslashes, because it is written with slashes in their place. With nulls, which
are not written at all, this is all that the form loses. `told` is what is left of a set, and two
sets are written alike exactly if the same is left of them.

## Main definitions

* `IsBare`: Values that stand without quotes.
* `IsTellable`: Entries in which a backslash can only be part of a path.
* `told`: What the form tells of a set.

## Theorems

* `Numeral.intChars_injective`: No two whole numbers are written alike.
* `Capabilities.marked_cancel`: What stands between two quotes ends at the second.
* `Capabilities.markedEntry_cancel`: One entry in front of others.
* `Capabilities.entriesBehind_cancel`: Entries one behind the other.
* `Capabilities.quotedToken_eq_iff`: When two sets are written alike.
-/

namespace ServerLaunch

namespace Numeral

theorem minus_notMem_toDigits (n : Nat) : '-' ∉ Nat.toDigits 10 n :=
  fun hmem => absurd (isAsciiDigit_of_mem_toDigits hmem) (by decide)

theorem toDigits_injective {m n : Nat} (h : Nat.toDigits 10 m = Nat.toDigits 10 n) : m = n := by
  rw [← natOfDigits_toDigits m, h, natOfDigits_toDigits]

/-- No two whole numbers are written alike. -/
theorem intChars_injective {i j : Int} (h : intChars i = intChars j) : i = j := by
  unfold intChars at h
  by_cases hi : i < 0
  · by_cases hj : j < 0
    · rw [if_pos hi, if_pos hj] at h
      have habs := toDigits_injective (List.cons.inj h).2
      omega
    · -- Only one of the two has a minus sign.
      rw [if_pos hi, if_neg hj] at h
      exact absurd (h ▸ List.mem_cons_self) (minus_notMem_toDigits j.natAbs)
  · by_cases hj : j < 0
    · rw [if_neg hi, if_pos hj] at h
      exact absurd (h ▸ List.mem_cons_self) (minus_notMem_toDigits i.natAbs)
    · rw [if_neg hi, if_neg hj] at h
      have habs := toDigits_injective h
      omega

/-- A whole number has digits and a minus sign in it and no other characters. -/
theorem of_mem_intChars {i : Int} {c : Char} (h : c ∈ intChars i) :
    c = '-' ∨ Text.isAsciiDigit c = true := by
  unfold intChars at h
  split at h
  · rcases List.mem_cons.mp h with rfl | h
    · exact Or.inl rfl
    · exact Or.inr (isAsciiDigit_of_mem_toDigits h)
  · exact Or.inr (isAsciiDigit_of_mem_toDigits h)

end Numeral

namespace Capabilities

/-- Values that stand without quotes: truth values and whole numbers. -/
inductive IsBare : Value → Prop
  | bool (b : Bool) : IsBare (.bool b)
  | int (i : Int) : IsBare (.number (.int i))

/-- An entry in which a backslash can only be part of a path. The name is a text without one, and
    so is the value, unless it stands without quotes or the name is that of a path. -/
structure IsTellable (e : Value × Value) : Prop where
  name : ∃ s, e.1 = .text s ∧ '\\' ∉ s.toList
  value : IsBare e.2 ∨ ∃ s, e.2 = .text s ∧ (isPathName e.1 = false → '\\' ∉ s.toList)

/-- What the form tells of a value: of a path, the one with forward slashes. -/
def toldValue (name value : Value) : Value :=
  match value with
  | .text s => .text (if isPathName name then String.ofList (forwardSlashes s.toList) else s)
  | v => v

/-- What the form tells of an entry. -/
def toldEntry (e : Value × Value) : Value × Value :=
  (e.1, toldValue e.1 e.2)

/-- The entries that the form writes: those that are not null. -/
def written (es : Entries) : Entries :=
  es.filter fun e => !isNull e.2

/-- What the form tells of a set. -/
def told (es : Entries) : Entries :=
  (written es).map toldEntry

variable {r s : List Char}

/-- A run of characters ends where the first one of a set comes. -/
theorem append_inj_of_stops {p : Char → Bool} {xs ys : List Char} {c d : Char}
    (hxs : ∀ x ∈ xs, p x = false) (hys : ∀ y ∈ ys, p y = false) (hc : p c) (hd : p d)
    (h : xs ++ c :: r = ys ++ d :: s) : xs = ys ∧ c :: r = d :: s := by
  have hrun {zs : List Char} {e : Char} {t : List Char} (hzs : ∀ z ∈ zs, p z = false)
      (he : p e) : (zs ++ e :: t).takeWhile (fun x => !p x) = zs := by
    rw [List.takeWhile_append_of_pos fun z hz => by rw [hzs z hz]; rfl,
      List.takeWhile_cons_of_neg (by rw [he]; exact Bool.false_ne_true), List.append_nil]
  have hsame : xs = ys := by rw [← hrun hxs hc, h, hrun hys hd]
  rw [hsame] at h
  exact ⟨hsame, List.append_cancel_left h⟩

/-- What stands between two escaped quotes ends at the second, if there is no backslash in it. -/
theorem marked_cancel {cs ds : List Char} (hcs : '\\' ∉ cs) (hds : '\\' ∉ ds)
    (h : marked cs ++ r = marked ds ++ s) : cs = ds ∧ r = s := by
  unfold marked quoteMark at h
  rw [List.append_assoc, List.append_assoc, List.append_assoc, List.append_assoc] at h
  have hinside := append_inj_of_stops (p := (· == '\\'))
    (fun x hx => beq_eq_false_iff_ne.mpr fun heq => hcs (heq ▸ hx))
    (fun x hx => beq_eq_false_iff_ne.mpr fun heq => hds (heq ▸ hx)) rfl rfl
    (List.append_cancel_left h)
  exact ⟨hinside.1, (List.cons.inj (List.cons.inj hinside.2).2).2⟩

/-- What comes behind a value: the comma in front of the next entry, or the last brace. -/
def endsValue (c : Char) : Bool :=
  c == ',' || c == '\x7d'

theorem plain_int (i : Int) : plain (.number (.int i)) = Numeral.intChars i :=
  String.toList_ofList

/-- In a value without quotes there is nothing that could be taken for its end, and no
    backslash. -/
theorem plain_bare {v : Value} (h : IsBare v) {c : Char} (hc : c ∈ plain v) :
    endsValue c = false ∧ c ≠ '\\' := by
  cases h with
  | bool b =>
      have hall : (Json.boolToken b).all fun c => !endsValue c && c != '\\' := by
        cases b with
        | false => rfl
        | true => rfl
      simpa only [Bool.and_eq_true, Bool.not_eq_true', bne_iff_ne] using
        List.all_eq_true.mp hall c hc
  | int i =>
      rw [plain_int] at hc
      rcases Numeral.of_mem_intChars hc with rfl | hdigit
      · decide
      · have hne : ∀ d, Text.isAsciiDigit d = false → c ≠ d := by
          rintro d hd rfl
          exact absurd (hdigit.symm.trans hd) (by decide)
        refine ⟨?_, hne _ (by decide)⟩
        rw [endsValue, Bool.or_eq_false_iff, beq_eq_false_iff_ne, beq_eq_false_iff_ne]
        exact ⟨hne _ (by decide), hne _ (by decide)⟩

theorem plain_bare_ne_nil {v : Value} (h : IsBare v) : plain v ≠ [] := by
  cases h with
  | bool b => cases b <;> exact List.cons_ne_nil _ _
  | int i =>
      rw [plain_int, Numeral.intChars]
      split
      · exact List.cons_ne_nil _ _
      · exact Nat.toDigits_ne_nil

/-- A truth value is not written like a number. -/
theorem boolToken_ne_intChars (b : Bool) (i : Int) : Json.boolToken b ≠ Numeral.intChars i := by
  intro h
  -- Both words have an `e` in them.
  have hmem : 'e' ∈ Json.boolToken b := by cases b <;> decide
  rw [h] at hmem
  rcases Numeral.of_mem_intChars hmem with heq | hdigit
  · exact absurd heq (by decide)
  · exact absurd hdigit (by decide)

/-- Values without quotes are written differently. -/
theorem plain_bare_injective {v w : Value} (hv : IsBare v) (hw : IsBare w)
    (h : plain v = plain w) : v = w := by
  cases hv with
  | bool b =>
      cases hw with
      | bool b' =>
          have htokens : ∀ b b', Json.boolToken b = Json.boolToken b' → b = b' := by decide
          rw [htokens b b' h]
      | int j => exact absurd (h.trans (plain_int j)) (boolToken_ne_intChars b j)
  | int i =>
      cases hw with
      | bool b' => exact absurd (h.symm.trans (plain_int i)) (boolToken_ne_intChars b' i)
      | int j =>
          rw [plain_int, plain_int] at h
          rw [Numeral.intChars_injective h]

/-- A text between quotes is not written like a value without quotes, whatever comes behind. -/
theorem marked_ne_plain {v : Value} (h : IsBare v) (cs : List Char) :
    marked cs ++ r ≠ plain v ++ s := by
  intro heq
  rcases List.exists_cons_of_ne_nil (plain_bare_ne_nil h) with ⟨c, rest, hplain⟩
  have hfirst : c ≠ '\\' := (plain_bare h (by rw [hplain]; exact List.mem_cons_self)).2
  rw [hplain] at heq
  exact hfirst (List.cons.inj heq).1.symm

/-- The characters between the quotes of a text. -/
def toldChars (name : Value) (s : String) : List Char :=
  if isPathName name then forwardSlashes s.toList else s.toList

theorem backslash_notMem_forwardSlashes (cs : List Char) : '\\' ∉ forwardSlashes cs := by
  intro hmem
  rcases List.mem_map.mp hmem with ⟨c, _, hc⟩
  by_cases hslash : c = '\\'
  · rw [hslash] at hc
    exact absurd hc (by decide)
  · rw [if_neg (by rwa [beq_iff_eq])] at hc
    exact hslash hc

theorem backslash_notMem_toldChars {name : Value} {text : String}
    (h : isPathName name = false → '\\' ∉ text.toList) : '\\' ∉ toldChars name text := by
  unfold toldChars
  by_cases hpath : isPathName name
  · rw [if_pos hpath]
    exact backslash_notMem_forwardSlashes _
  · rw [if_neg hpath]
    exact h (Bool.eq_false_iff.mpr hpath)

/-- What a reader is told of a text does not change if it is written again. -/
theorem toldChars_toldChars (name : Value) (s : String) :
    toldChars name (String.ofList (toldChars name s)) = toldChars name s := by
  unfold toldChars
  by_cases hpath : isPathName name
  · rw [if_pos hpath, if_pos hpath, String.toList_ofList]
    -- There is no backslash left to be replaced.
    unfold forwardSlashes
    rw [List.map_map]
    refine List.map_congr_left fun c _ => ?_
    by_cases hslash : c = '\\'
    · rw [hslash]
      rfl
    · simp only [Function.comp_apply, beq_iff_eq, if_neg hslash]
  · rw [if_neg hpath, if_neg hpath, String.toList_ofList]

theorem toldValue_text (name : Value) (s : String) :
    toldValue name (.text s) = .text (String.ofList (toldChars name s)) := by
  change Value.text (if isPathName name then _ else s) = _
  unfold toldChars
  by_cases hpath : isPathName name
  · rw [if_pos hpath, if_pos hpath]
  · rw [if_neg hpath, if_neg hpath, String.ofList_toList]

theorem toldValue_bare {v : Value} (h : IsBare v) (name : Value) : toldValue name v = v := by
  cases h <;> rfl

theorem markedValue_bare {v : Value} (h : IsBare v) (name : Value) :
    markedValue name v = plain v := by
  cases h <;> rfl

/-- The values of one name can be told apart by their first characters, with something behind
    them that ends a value. -/
theorem markedValue_cancel {name v w : Value} (hv : IsTellable (name, v))
    (hw : IsTellable (name, w)) {c d : Char} (hc : endsValue c) (hd : endsValue d)
    (h : markedValue name v ++ c :: r = markedValue name w ++ d :: s) :
    toldValue name v = toldValue name w ∧ c :: r = d :: s := by
  rcases hv.value with hbare | ⟨t, rfl, ht⟩
  · rw [markedValue_bare hbare] at h
    rcases hw.value with hbare' | ⟨u, rfl, _⟩
    · rw [markedValue_bare hbare'] at h
      rcases append_inj_of_stops (fun x hx => (plain_bare hbare hx).1)
        (fun x hx => (plain_bare hbare' hx).1) hc hd h with ⟨hplain, hrest⟩
      rw [toldValue_bare hbare, toldValue_bare hbare']
      exact ⟨plain_bare_injective hbare hbare' hplain, hrest⟩
    · exact absurd h.symm (marked_ne_plain hbare _)
  · rcases hw.value with hbare' | ⟨u, rfl, hu⟩
    · rw [markedValue_bare hbare'] at h
      exact absurd h (marked_ne_plain hbare' _)
    · have hchars := marked_cancel (backslash_notMem_toldChars ht)
        (backslash_notMem_toldChars hu) h
      rw [toldValue_text, toldValue_text, hchars.1]
      exact ⟨rfl, hchars.2⟩

/-- An entry can be told from what is written for it, with something behind it that ends a
    value. -/
theorem markedEntry_cancel {e f : Value × Value} (he : IsTellable e) (hf : IsTellable f)
    {c d : Char} (hc : endsValue c) (hd : endsValue d)
    (h : markedEntry e ++ c :: r = markedEntry f ++ d :: s) :
    toldEntry e = toldEntry f ∧ c :: r = d :: s := by
  rcases e with ⟨k, v⟩
  rcases f with ⟨l, w⟩
  rcases he.name with ⟨name, rfl, hname⟩
  rcases hf.name with ⟨name', rfl, hname'⟩
  unfold markedEntry at h
  rw [List.append_assoc, List.append_assoc] at h
  -- The name ends at its second quote, and the value behind it is that of one name on both sides.
  rcases marked_cancel hname hname' h with ⟨hsame, hrest⟩
  rcases String.toList_inj.mp hsame with rfl
  rcases markedValue_cancel he hf hc hd (List.cons.inj (List.cons.inj hrest).2).2 with
    ⟨hvalue, hbehind⟩
  exact ⟨congrArg (Prod.mk (Value.text name)) hvalue, hbehind⟩

/-- Entries with a comma in front of each, and the last brace. -/
def entriesBehind (es : Entries) : List Char :=
  es.flatMap (fun e => ',' :: ' ' :: markedEntry e) ++ ['\x7d']

theorem commaJoin_cons (piece : List Char) (pieces : List (List Char)) :
    Value.commaJoin (piece :: pieces) = piece ++ pieces.flatMap (fun p => ',' :: ' ' :: p) := by
  induction pieces generalizing piece with
  | nil => rw [Value.commaJoin, List.intercalate_singleton, List.flatMap_nil, List.append_nil]
  | cons next pieces ih =>
      have hnext := ih next
      unfold Value.commaJoin at hnext ⊢
      rw [List.intercalate_cons_cons, hnext, List.flatMap_cons, List.append_assoc]
      rfl

theorem entriesBehind_cons (e : Value × Value) (es : Entries) :
    entriesBehind (e :: es) = ',' :: ' ' :: (markedEntry e ++ entriesBehind es) := by
  rw [entriesBehind, List.flatMap_cons, List.append_assoc]
  rfl

/-- The first of what comes behind an entry ends a value. -/
theorem entriesBehind_starts (es : Entries) :
    ∃ c rest, entriesBehind es = c :: rest ∧ endsValue c := by
  cases es with
  | nil => exact ⟨_, _, rfl, rfl⟩
  | cons e es => exact ⟨_, _, entriesBehind_cons e es, rfl⟩

/-- One entry in front of others can be told, and so can what the others are written as. -/
theorem markedEntry_entriesBehind_cancel {e f : Value × Value} {es fs : Entries}
    (he : IsTellable e) (hf : IsTellable f)
    (h : markedEntry e ++ entriesBehind es = markedEntry f ++ entriesBehind fs) :
    toldEntry e = toldEntry f ∧ entriesBehind es = entriesBehind fs := by
  rcases entriesBehind_starts es with ⟨c, r, hes, hc⟩
  rcases entriesBehind_starts fs with ⟨d, s, hfs, hd⟩
  rw [hes, hfs] at h ⊢
  exact markedEntry_cancel he hf hc hd h

/-- Entries one behind the other can be told, and how many they are. -/
theorem entriesBehind_cancel {es fs : Entries} (hes : ∀ e ∈ es, IsTellable e)
    (hfs : ∀ f ∈ fs, IsTellable f) (h : entriesBehind es = entriesBehind fs) :
    es.map toldEntry = fs.map toldEntry := by
  induction es generalizing fs with
  | nil =>
      cases fs with
      | nil => rfl
      | cons f fs =>
          rw [entriesBehind_cons] at h
          exact absurd (List.cons.inj h).1 (by decide)
  | cons e es ih =>
      cases fs with
      | nil =>
          rw [entriesBehind_cons] at h
          exact absurd (List.cons.inj h).1 (by decide)
      | cons f fs =>
          rw [List.forall_mem_cons] at hes hfs
          rw [entriesBehind_cons, entriesBehind_cons] at h
          rcases markedEntry_entriesBehind_cancel hes.1 hfs.1
            (List.cons.inj (List.cons.inj h).2).2 with ⟨hentry, hrest⟩
          rw [List.map_cons, List.map_cons, hentry, ih hes.2 hfs.2 hrest]

theorem quotedChars_nil {es : Entries} (h : written es = []) :
    quotedChars es = ['\x7b', '\x7d'] := by
  unfold written at h
  rw [quotedChars, h]
  rfl

theorem quotedChars_cons {es rest : Entries} {e : Value × Value} (h : written es = e :: rest) :
    quotedChars es = '\x7b' :: (markedEntry e ++ entriesBehind rest) := by
  unfold written at h
  rw [quotedChars, h, List.map_cons, Value.bracketed, commaJoin_cons, List.flatMap_map,
    List.append_assoc, List.append_assoc]
  rfl

/-- What the form writes depends on what it tells. -/
theorem quotedChars_eq_of_told {es fs : Entries} (h : told es = told fs) :
    quotedChars es = quotedChars fs := by
  have hentry : (fun e => markedEntry (toldEntry e)) = markedEntry := by
    funext ⟨k, v⟩
    cases v with
    | text s =>
        have hagain : markedValue k (.text (String.ofList (toldChars k s)))
            = marked (toldChars k (String.ofList (toldChars k s))) := rfl
        rw [toldEntry, toldValue_text, markedEntry, hagain, toldChars_toldChars]
        rfl
    | _ => rfl
  have hwritten (es : Entries) : (written es).map markedEntry = (told es).map markedEntry := by
    rw [told, List.map_map, Function.comp_def, hentry]
  unfold quotedChars
  rw [← written, ← written, hwritten, hwritten, h]

/-- Two sets of null, truth values, whole numbers and texts are written alike in the form with
    escaped quotes exactly if the form tells the same of both: without nulls, they have the same
    names in the same order with the same values, where paths are compared with slashes for their
    backslashes. For that no name has a backslash in it, and no text but a path. -/
theorem quotedToken_eq_iff {es fs : Entries}
    (hes : ∀ e ∈ es, isNull e.2 = false → IsTellable e)
    (hfs : ∀ f ∈ fs, isNull f.2 = false → IsTellable f) :
    quotedToken (some es) = quotedToken (some fs) ↔ told es = told fs := by
  have htellable {gs : Entries} (hgs : ∀ g ∈ gs, isNull g.2 = false → IsTellable g) :
      ∀ g ∈ written gs, IsTellable g := by
    intro g hg
    rcases List.mem_filter.mp hg with ⟨hmem, hnull⟩
    exact hgs g hmem (by rwa [Bool.not_eq_true'] at hnull)
  have hes' := htellable hes
  have hfs' := htellable hfs
  unfold quotedToken
  rw [Option.getD_some, Option.getD_some, String.ofList_inj]
  refine ⟨fun h => ?_, quotedChars_eq_of_told⟩
  unfold told
  rcases hwes : written es with _ | ⟨e, es'⟩
  · rcases hwfs : written fs with _ | ⟨f, fs'⟩
    · rfl
    · -- A set without entries ends where the other one has the first quote.
      rw [quotedChars_nil hwes, quotedChars_cons hwfs] at h
      exact absurd (List.cons.inj (List.cons.inj h).2).1 (by decide)
  · rcases hwfs : written fs with _ | ⟨f, fs'⟩
    · rw [quotedChars_cons hwes, quotedChars_nil hwfs] at h
      exact absurd (List.cons.inj (List.cons.inj h).2).1 (by decide)
    · rw [quotedChars_cons hwes, quotedChars_cons hwfs] at h
      rw [hwes, List.forall_mem_cons] at hes'
      rw [hwfs, List.forall_mem_cons] at hfs'
      rcases markedEntry_entriesBehind_cancel hes'.1 hfs'.1 (List.cons.inj h).2 with
        ⟨hentry, hrest⟩
      rw [List.map_cons, List.map_cons, hentry, entriesBehind_cancel hes'.2 hfs'.2 hrest]

/-- A set with a path, a number and a null, and a text that looks like the end of a quote, a comma
    and another capability. -/
def toldSample : Entries :=
  [(.text "app", .text "C:\\a"), (.text "port", .int 12), (.text "udid", .null),
    (.text "note", .text "x\", \"port\": 1\x7d")]

/-- The same set with another path and without the null. -/
def retoldSample : Entries :=
  [(.text "app", .text "C:/a"), (.text "port", .int 12),
    (.text "note", .text "x\", \"port\": 1\x7d")]

/-- The two sets are written alike, and otherwise than with a text for the number. -/
theorem quotedToken_eq_iff_retold :
    (∀ e ∈ toldSample, isNull e.2 = false → IsTellable e) ∧
      (∀ e ∈ retoldSample, isNull e.2 = false → IsTellable e) ∧
      quotedToken (some toldSample) = quotedToken (some retoldSample) ∧
      quotedToken (some [(.text "port", .int 12)])
        ≠ quotedToken (some [(.text "port", .text "12")]) := by
  have hname : isPathName (.text "app") = true := by decide
  have hpath (s : String) : IsTellable (.text "app", .text s) :=
    ⟨⟨_, rfl, by decide⟩, Or.inr ⟨s, rfl, fun h => absurd (h.symm.trans hname) (by decide)⟩⟩
  have hport : IsTellable (.text "port", .int 12) := ⟨⟨_, rfl, by decide⟩, Or.inl (.int 12)⟩
  have hnote : IsTellable (.text "note", .text "x\", \"port\": 1\x7d") :=
    ⟨⟨_, rfl, by decide⟩, Or.inr ⟨_, rfl, fun _ => by decide⟩⟩
  have htext : IsTellable (.text "port", .text "12") :=
    ⟨⟨_, rfl, by decide⟩, Or.inr ⟨_, rfl, fun _ => by decide⟩⟩
  have hsample : ∀ e ∈ toldSample, isNull e.2 = false → IsTellable e := by
    simp only [toldSample, List.forall_mem_cons]
    exact ⟨fun _ => hpath _, fun _ => hport, fun h => (nomatch h), fun _ => hnote,
      List.forall_mem_nil _⟩
  have hresample : ∀ e ∈ retoldSample, isNull e.2 = false → IsTellable e := by
    simp only [retoldSample, List.forall_mem_cons]
    exact ⟨fun _ => hpath _, fun _ => hport, fun _ => hnote, List.forall_mem_nil _⟩
  refine ⟨hsample, hresample, (quotedToken_eq_iff hsample hresample).mpr (by decide +kernel),
    fun heq => ?_⟩
  have hsame := (quotedToken_eq_iff (List.forall_mem_singleton.mpr fun _ => hport)
    (List.forall_mem_singleton.mpr fun _ => htext)).mp heq
  exact absurd hsame (by decide +kernel)

end Capabilities

end ServerLaunch

import Mathlib.Data.List.Forall2
import ServerLaunch.Proofs.JsonGrammar
import ServerLaunch.Proofs.JsonReading
import ServerLaunch.Proofs.JsonText
import ServerLaunch.Proofs.ShortestDigits

/-!
# Written JSON

Which values are written as JSON that everybody reads.

The writer follows the grammar of the standard with one exception. Texts are escaped as the grammar
wants it, lists and objects are put together as it says, and the text of a finite number is a number
of the grammar, with a point or with an exponent. But there are words for infinities and for the
not-a-number that the standard does not know. They are not in quotes, and begin with letters that
are nowhere else outside quotes, so a token with such a word in it is not JSON, however deep in a
value the word is.

That is what a token tells of its value, and it is proved for all values at once, by an induction
that goes along with the writer.

## Main definitions

* `Value.Holds`, `Value.AllFinite`: What is in a value, and values with finite numbers only.
* `Tells`: A token that is JSON, or has a letter that tells that it is not.

## Theorems

* `isNumber_intChars`, `isNumber_write`: The texts of numbers.
* `isText_textToken`: Texts in quotes.
* `Tells.members`, `Tells.dict`: Collections.
* `tells_of_write`: What is written for a value.
-/

namespace ServerLaunch

/-- Whether a floating point number is a number. -/
def Binary64.isFinite : Binary64 → Bool
  | .finite .. => true
  | _ => false

/-- A value is the other, or has it somewhere in it, keys of objects left out. -/
inductive Value.Holds : Value → Value → Prop
  | self (v : Value) : Holds v v
  | list {vs : List Value} {v w : Value} (hmem : v ∈ vs) (h : v.Holds w) : Holds (.list vs) w
  | tuple {vs : List Value} {v w : Value} (hmem : v ∈ vs) (h : v.Holds w) : Holds (.tuple vs) w
  | dict {es : Entries} {e : Value × Value} {w : Value} (hmem : e ∈ es) (h : e.2.Holds w) :
      Holds (.dict es) w

/-- All floating point numbers in a value are finite. -/
def Value.AllFinite (v : Value) : Prop :=
  ∀ x, v.Holds (.float x) → x.isFinite = true

namespace Json

section Numbers

/-! ## Numbers -/

variable {ds : List Char}

theorem isDigits_toDigits (n : Nat) : IsDigits (Nat.toDigits 10 n) :=
  fun _ hc => Numeral.isAsciiDigit_of_mem_toDigits hc

theorem isWhole_toDigits (n : Nat) : IsWhole (Nat.toDigits 10 n) := by
  rcases Nat.eq_zero_or_pos n with rfl | hpos
  · exact .zero
  · exact .digits Nat.toDigits_ne_nil (Numeral.head?_toDigits_ne hpos) (isDigits_toDigits n)

theorem isDigits_zeros (n : Nat) : IsDigits (List.replicate n '0') := by
  intro c hc
  rw [List.eq_of_mem_replicate hc]
  rfl

theorem IsDigits.append {ds es : List Char} (hds : IsDigits ds) (hes : IsDigits es) :
    IsDigits (ds ++ es) :=
  List.forall_mem_append.mpr ⟨hds, hes⟩

theorem IsUnsigned.signed {cs : List Char} (h : IsUnsigned cs) (negative : Bool) :
    IsNumber (if negative then '-' :: cs else cs) := by
  cases negative with
  | false => exact .plain h
  | true => exact .minus h

/-- A number without an exponent. -/
theorem IsUnsigned.of_fraction {whole fraction : List Char} (hwhole : IsWhole whole)
    (hfraction : IsFraction fraction) : IsUnsigned (whole ++ fraction) := by
  have h := IsUnsigned.mk hwhole hfraction .none
  rw [List.append_nil] at h
  exact h

theorem isNumber_intChars (i : Int) : IsNumber (Numeral.intChars i) := by
  have hunsigned := IsUnsigned.of_fraction (isWhole_toDigits i.natAbs) .none
  rw [List.append_nil] at hunsigned
  rw [Numeral.intChars]
  split
  · exact .minus hunsigned
  · exact .plain hunsigned

/-- Digits around a point, with a zero where there would be none. -/
theorem isUnsigned_positional (hsome : ds ≠ []) (hzero : ds.head? ≠ some '0') (h : IsDigits ds)
    (places : Int) : IsUnsigned (Binary64.positional ds places) := by
  unfold Binary64.positional
  split
  · exact .of_fraction .zero (.digits (List.append_ne_nil_of_right_ne_nil _ hsome)
      ((isDigits_zeros (-places).toNat).append h))
  · next hplaces =>
      have hwhole : IsWhole (ds.take places.toNat ++
          List.replicate (places.toNat - ds.length) '0') := by
        rcases ds with _ | ⟨d, ds⟩
        · exact absurd rfl hsome
        · rcases hn : places.toNat with _ | n
          · omega
          · refine .digits (List.cons_ne_nil _ _) hzero (.append ?_ (isDigits_zeros _))
            exact fun c hc => h c (List.mem_of_mem_take hc)
      have hfraction : IsFraction ('.' :: if (ds.drop places.toNat).isEmpty then ['0']
          else ds.drop places.toNat) := by
        split
        · exact .digits (by decide) (List.forall_mem_singleton.mpr rfl)
        · next hrest =>
            exact .digits (fun hnil => hrest (by rw [hnil]; rfl))
              fun c hc => h c (List.mem_of_mem_drop hc)
      exact .of_fraction hwhole hfraction

theorem isDigits_padZeros (width n : Nat) :
    IsDigits (Binary64.padZeros width (Binary64.digitChars n)) :=
  (isDigits_zeros _).append (isDigits_toDigits n)

/-- Digits with an exponent. -/
theorem isUnsigned_exponential {d : Char} (hzero : d ≠ '0') (h : IsDigits (d :: ds))
    (leading : Int) : IsUnsigned (Binary64.exponential tokenLayout (d :: ds) leading) := by
  rcases List.forall_mem_cons.mp h with ⟨hd, hds⟩
  have hwhole : IsWhole [d] :=
    .digits (List.cons_ne_nil _ _) (fun heq => hzero (Option.some.inj heq))
      (List.forall_mem_singleton.mpr hd)
  have hfraction : IsFraction (if ds.isEmpty then [] else '.' :: ds) := by
    split
    · exact .none
    · next hrest => exact .digits (fun hnil => hrest (by rw [hnil]; rfl)) hds
  have hexponent : IsExponent ('e' :: ([if leading < 0 then '-' else '+'] ++
      Binary64.padZeros 2 (Binary64.digitChars leading.natAbs))) := by
    refine .digits (by decide) ?_ (List.append_ne_nil_of_right_ne_nil _ Nat.toDigits_ne_nil)
      (isDigits_padZeros 2 _)
    split <;> decide
  have hmk := IsUnsigned.mk hwhole hfraction hexponent
  rw [← List.append_assoc] at hmk
  exact hmk

/-- A finite number is a number of JSON. -/
theorem isNumber_write (negative : Bool) (significand : Nat) (exponent : Int) :
    IsNumber (tokenLayout.write (.finite negative significand exponent)) := by
  rcases significand with _ | s
  · have hzero : IsFraction ['.', '0'] :=
      .digits (List.cons_ne_nil _ _) (List.forall_mem_singleton.mpr rfl)
    exact (IsUnsigned.of_fraction .zero hzero).signed negative
  · have hpos : 0 < (Binary64.shortest (s + 1) exponent).1 :=
      Binary64.shortest_pos s.succ_pos exponent
    unfold Binary64.Layout.write
    simp only
    generalize Binary64.shortest (s + 1) exponent = found at hpos ⊢
    rcases found with ⟨digits, power⟩
    have hzero := Numeral.head?_toDigits_ne hpos
    have hdigits := isDigits_toDigits digits
    refine IsUnsigned.signed ?_ negative
    split
    · exact isUnsigned_positional Nat.toDigits_ne_nil hzero hdigits _
    · rw [Binary64.digitChars]
      rcases hds : Nat.toDigits 10 digits with _ | ⟨d, ds⟩
      · exact absurd hds Nat.toDigits_ne_nil
      · rw [hds] at hzero hdigits
        exact isUnsigned_exponential (fun heq => hzero (congrArg some heq)) hdigits _

end Numbers

section Texts

/-! ## Texts -/

theorem isContent_escapeChar (c : Char) {cs : List Char} (h : IsContent cs) :
    IsContent (escapeChar c ++ cs) := by
  unfold escapeChar
  split
  · next hquoted =>
      rw [Bool.or_eq_true, beq_iff_eq, beq_iff_eq] at hquoted
      rcases hquoted with rfl | rfl <;> exact .escape (by decide) h
  · next hplain =>
      rw [Bool.or_eq_true, beq_iff_eq, beq_iff_eq, not_or] at hplain
      split
      · unfold controlEscape
        split
        on_goal 6 =>
          have hdigits := Text.isSome_of_hexValueFrom (Text.hexValueFrom_hex 0 4 c.toNat)
          exact .unit rfl hdigits h
        all_goals exact .escape (by decide) h
      · next hcontrol => exact .literal (Nat.not_lt.mp hcontrol) hplain.1 hplain.2 h

theorem isText_textToken (cs : List Char) : IsText (textToken cs) := by
  refine .mk ?_
  induction cs with
  | nil => exact .nil
  | cons c cs ih => exact isContent_escapeChar c ih

end Texts

section Values

/-! ## Values -/

/-- What is written for a value can be looked at on its own. If all floating point numbers in the
    value are finite, it is JSON; otherwise there is a letter outside quotes that JSON has not. -/
structure Tells (v : Value) (token : List Char) : Prop where
  closed : Closed token
  json : v.AllFinite → IsJson token
  special : ¬v.AllFinite → ∃ c ∈ bare .outside token, c ∈ specialLetters

theorem Tells.of_json {v : Value} {token : List Char} (h : IsJson token) (hv : v.AllFinite) :
    Tells v token :=
  ⟨h.without.closed, fun _ => h, fun hnot => absurd hv hnot⟩

theorem Tells.of_text {v : Value} (cs : List Char) (hv : v.AllFinite) : Tells v (textToken cs) :=
  .of_json (.text (isText_textToken cs)) hv

theorem Tells.isJson_iff {v : Value} {token : List Char} (h : Tells v token) :
    IsJson token ↔ v.AllFinite := by
  refine ⟨fun hjson => ?_, h.json⟩
  by_contra hnot
  rcases h.special hnot with ⟨c, hc, hletter⟩
  exact hjson.without.bare c hc hletter

theorem tells_float (x : Binary64) : Tells (.float x) (tokenLayout.write x) := by
  cases x with
  | finite negative significand exponent =>
      refine .of_json (.number (isNumber_write negative significand exponent)) fun x hx => ?_
      cases hx
      rfl
  | infinite negative =>
      refine ⟨?_, fun h => absurd (h _ (.self _)) Bool.false_ne_true, fun _ => ⟨'I', ?_, by decide⟩⟩
      · cases negative <;> rfl
      · cases negative <;> decide
  | nan tag =>
      exact ⟨rfl, fun h => absurd (h _ (.self _)) Bool.false_ne_true,
        fun _ => ⟨'N', List.mem_cons_self, by decide⟩⟩

/-- Pieces with commas between them can be looked at on their own, and nothing in them is lost. -/
theorem closed_separated {pieces : List (List Char)} (h : ∀ piece ∈ pieces, Closed piece) :
    Closed (separated pieces) ∧
      ∀ piece ∈ pieces, ∀ c ∈ bare .outside piece, c ∈ bare .outside (separated pieces) := by
  induction pieces with
  | nil => exact ⟨rfl, List.forall_mem_nil _⟩
  | cons piece pieces ih =>
      rcases List.forall_mem_cons.mp h with ⟨hpiece, hrest⟩
      rcases pieces with _ | ⟨next, pieces⟩
      · rw [separated, List.intercalate_singleton]
        exact ⟨hpiece, List.forall_mem_singleton.mpr fun c hc => hc⟩
      · rcases ih hrest with ⟨hclosed, hbare⟩
        have hcomma : Closed [','] := rfl
        rw [separated_cons_cons, hpiece.bare_append, hcomma.bare_append]
        refine ⟨hpiece.append (hcomma.append hclosed), List.forall_mem_cons.mpr ⟨?_, ?_⟩⟩
        · exact fun c hc => List.mem_append_left _ hc
        · intro p hp c hc
          exact List.mem_append_right _ (List.mem_append_right _ (hbare p hp c hc))

/-- A collection is told of by its pieces, whatever the brackets. -/
theorem Tells.bracketed {v : Value} {opening closing : Char} (hopening : Closed [opening])
    (hclosing : Closed [closing]) {pieces : List (List Char)}
    (hclosed : ∀ piece ∈ pieces, Closed piece)
    (hjson : v.AllFinite → IsJson (opening :: (separated pieces ++ [closing])))
    (hspecial : ¬v.AllFinite →
      ∃ piece ∈ pieces, ∃ c ∈ bare .outside piece, c ∈ specialLetters) :
    Tells v (opening :: (separated pieces ++ [closing])) := by
  rcases closed_separated hclosed with ⟨hpieces, hbare⟩
  refine ⟨hopening.append (hpieces.append hclosing), hjson, fun hnot => ?_⟩
  rcases hspecial hnot with ⟨piece, hpiece, c, hc, hletter⟩
  refine ⟨c, ?_, hletter⟩
  rw [← List.singleton_append, hopening.bare_append, hpieces.bare_append]
  exact List.mem_append_right _ (List.mem_append_left _ (hbare piece hpiece c hc))

variable {vs : List Value} {es : Entries} {tokens : List (List Char)}

theorem allFinite_list : (Value.list vs).AllFinite ↔ ∀ v ∈ vs, v.AllFinite := by
  refine ⟨fun h v hv x hx => h x (.list hv hx), fun h x hx => ?_⟩
  cases hx with
  | list hmem hx => exact h _ hmem x hx

theorem allFinite_tuple : (Value.tuple vs).AllFinite ↔ ∀ v ∈ vs, v.AllFinite := by
  refine ⟨fun h v hv x hx => h x (.tuple hv hx), fun h x hx => ?_⟩
  cases hx with
  | tuple hmem hx => exact h _ hmem x hx

theorem allFinite_dict : (Value.dict es).AllFinite ↔ ∀ e ∈ es, e.2.AllFinite := by
  refine ⟨fun h e he x hx => h x (.dict he hx), fun h x hx => ?_⟩
  cases hx with
  | dict hmem hx => exact h _ hmem x hx

theorem exists_of_forall₂ {α β : Type} {R : α → β → Prop} {xs : List α} {ys : List β}
    (h : List.Forall₂ R xs ys) : (∀ x ∈ xs, ∃ y ∈ ys, R x y) ∧ ∀ y ∈ ys, ∃ x ∈ xs, R x y := by
  induction h with
  | nil => exact ⟨List.forall_mem_nil _, List.forall_mem_nil _⟩
  | cons hxy _ ih =>
      constructor
      · refine List.forall_mem_cons.mpr ⟨⟨_, List.mem_cons_self, hxy⟩, fun x hx => ?_⟩
        rcases ih.1 x hx with ⟨y, hy, hR⟩
        exact ⟨y, List.mem_cons_of_mem _ hy, hR⟩
      · refine List.forall_mem_cons.mpr ⟨⟨_, List.mem_cons_self, hxy⟩, fun y hy => ?_⟩
        rcases ih.2 y hy with ⟨x, hx, hR⟩
        exact ⟨x, List.mem_cons_of_mem _ hx, hR⟩

/-- Members between brackets tell of the collection. -/
theorem Tells.members {v : Value} (hv : v.AllFinite ↔ ∀ u ∈ vs, u.AllFinite)
    (h : List.Forall₂ Tells vs tokens) : Tells v ('[' :: (commaTokens tokens ++ [']'])) := by
  have hopening : Closed ['['] := rfl
  have hclosing : Closed [']'] := rfl
  rcases exists_of_forall₂ h with ⟨htold, htells⟩
  refine .bracketed hopening hclosing (fun token htoken => ?_) (fun hall => ?_) fun hnot => ?_
  · rcases htells token htoken with ⟨u, _, hu⟩
    exact hu.closed
  · rcases tokens with _ | ⟨token, tokens⟩
    · exact @IsJson.emptyList [] (List.forall_mem_nil _)
    · refine .list (List.cons_ne_nil _ _) fun token htoken => ?_
      rcases htells token htoken with ⟨u, hmem, hu⟩
      exact hu.json (hv.mp hall u hmem)
  · simp only [hv, not_forall] at hnot
    rcases hnot with ⟨u, hmem, hu⟩
    rcases htold u hmem with ⟨token, htoken, htells⟩
    exact ⟨token, htoken, htells.special hu⟩

/-- A name with a value that is told of. -/
def EntryTells (e : Value × Value) (token : List Char) : Prop :=
  ∃ name value, token = named name value ∧ IsText name ∧ Tells e.2 value

/-- Entries make an object, without any white space. -/
theorem isJson_object (h : ∀ token ∈ tokens, ∃ name value, token = named name value ∧
    IsText name ∧ IsJson value) : IsJson ('\x7b' :: (commaTokens tokens ++ ['\x7d'])) := by
  have hpairs : ∃ pairs : List (List Char × List Char),
      tokens = pairs.map (fun e => named e.1 e.2) ∧ ∀ e ∈ pairs, IsText e.1 ∧ IsJson e.2 := by
    induction tokens with
    | nil => exact ⟨[], rfl, List.forall_mem_nil _⟩
    | cons token tokens ih =>
        rcases List.forall_mem_cons.mp h with ⟨⟨name, value, rfl, hentry⟩, hrest⟩
        rcases ih hrest with ⟨pairs, rfl, hpairs⟩
        exact ⟨(name, value) :: pairs, rfl, List.forall_mem_cons.mpr ⟨hentry, hpairs⟩⟩
  rcases hpairs with ⟨pairs, rfl, hpairs⟩
  rcases pairs with _ | ⟨pair, pairs⟩
  · exact @IsJson.emptyObject [] (List.forall_mem_nil _)
  · refine .object (List.cons_ne_nil _ _) (fun e he => ?_) fun e he => (hpairs e he).2
    exact ⟨[], e.1, [], List.forall_mem_nil _, (hpairs e he).1, List.forall_mem_nil _,
      (List.append_nil e.1).symm⟩

theorem Tells.dict (h : List.Forall₂ EntryTells es tokens) :
    Tells (.dict es) ('\x7b' :: (commaTokens tokens ++ ['\x7d'])) := by
  have hopening : Closed ['\x7b'] := rfl
  have hclosing : Closed ['\x7d'] := rfl
  rcases exists_of_forall₂ h with ⟨htold, htells⟩
  refine .bracketed hopening hclosing (fun token htoken => ?_)
    (fun hall => isJson_object fun token htoken => ?_) fun hnot => ?_
  · rcases htells token htoken with ⟨e, _, name, value, rfl, hname, hvalue⟩
    have hcolon : Closed [':'] := rfl
    exact hname.without.closed.append (hcolon.append hvalue.closed)
  · rcases htells token htoken with ⟨e, hmem, name, value, rfl, hname, hvalue⟩
    exact ⟨name, value, rfl, hname, hvalue.json (allFinite_dict.mp hall e hmem)⟩
  · simp only [allFinite_dict, not_forall] at hnot
    rcases hnot with ⟨e, hmem, he⟩
    rcases htold e hmem with ⟨token, htoken, name, value, rfl, hname, hvalue⟩
    rcases hvalue.special he with ⟨c, hc, hletter⟩
    refine ⟨_, htoken, c, ?_, hletter⟩
    rw [named, hname.without.closed.bare_append]
    exact List.mem_append_right _ (List.mem_cons_of_mem _ hc)

theorem isText_nameToken {key : Value} {token : List Char} (h : nameToken key = .ok token) :
    IsText token := by
  unfold nameToken at h
  split at h
  on_goal 5 => cases h
  all_goals
    cases h
    exact isText_textToken _

mutual

/-- What is written tells of the value. -/
theorem tells_of_write : ∀ (v : Value) {token : List Char}, write v = .ok token → Tells v token
  | .null, token, h => by
      cases h
      exact .of_json (.word (by decide)) fun x hx => by cases hx
  | .bool b, token, h => by
      cases h
      refine .of_json (.word ?_) fun x hx => by cases hx
      cases b <;> decide
  | .number (.int i), token, h => by
      cases h
      exact .of_json (.number (isNumber_intChars i)) fun x hx => by cases hx
  | .number (.float x), token, h => by
      cases h
      exact tells_float x
  | .text s, token, h => by
      cases h
      exact .of_text _ fun x hx => by cases hx
  | .list vs, token, h => by
      rcases except_map_eq_ok.mp h with ⟨tokens, htokens, rfl⟩
      exact .members allFinite_list (tells_of_writeMembers vs htokens)
  | .tuple vs, token, h => by
      rcases except_map_eq_ok.mp h with ⟨tokens, htokens, rfl⟩
      exact .members allFinite_tuple (tells_of_writeMembers vs htokens)
  | .dict es, token, h => by
      rcases except_map_eq_ok.mp h with ⟨tokens, htokens, rfl⟩
      exact .dict (tells_of_writeEntries es htokens)
  | .set _, token, h => by
      cases h
      exact .of_text _ fun x hx => by cases hx
  | .caps _, token, h => by
      cases h
      exact .of_text _ fun x hx => by cases hx
  | .path _, token, h => by
      cases h
      exact .of_text _ fun x hx => by cases hx
  | .octets _, token, h => by
      cases h
      exact .of_text _ fun x hx => by cases hx
  | .moment _, token, h => by
      cases h
      exact .of_text _ fun x hx => by cases hx
termination_by structural v => v

theorem tells_of_writeMembers : ∀ (vs : List Value) {tokens : List (List Char)},
    writeMembers vs = .ok tokens → List.Forall₂ Tells vs tokens
  | [], tokens, h => by
      cases h
      exact .nil
  | v :: vs, tokens, h => by
      rcases except_bind_eq_ok.mp h with ⟨token, htoken, h⟩
      rcases except_bind_eq_ok.mp h with ⟨others, hothers, h⟩
      cases h
      exact .cons (tells_of_write v htoken) (tells_of_writeMembers vs hothers)
termination_by structural vs => vs

theorem tells_of_writeEntries : ∀ (es : List (Value × Value)) {tokens : List (List Char)},
    writeEntries es = .ok tokens → List.Forall₂ EntryTells es tokens
  | [], tokens, h => by
      cases h
      exact .nil
  | (key, v) :: es, tokens, h => by
      rcases except_bind_eq_ok.mp h with ⟨name, hname, h⟩
      rcases except_bind_eq_ok.mp h with ⟨token, htoken, h⟩
      rcases except_bind_eq_ok.mp h with ⟨others, hothers, h⟩
      cases h
      exact .cons ⟨name, token, rfl, isText_nameToken hname, tells_of_write v htoken⟩
        (tells_of_writeEntries es hothers)
termination_by structural es => es

end

end Values

end Json

end ServerLaunch

import ServerLaunch.Capabilities.Token
import ServerLaunch.Proofs.Tables

/-!
# Capability Sets within Capability Sets

How a capability set is written that is the value of a capability, or stands deeper still.

A capability set and a dictionary with the same entries are equal, so one should be written like
the other wherever it stands. `Value.withDicts` puts dictionaries for all capability sets of a
value, and both forms of a token are compared before and after. The form with escaped quotes
writes every mapping in one way, so it does not see the difference. JSON has the set as a whole
for an object, but a set within it for a value that it does not know, and writes the text that
the set has in a message. That text stands in quotes and an object in braces, so the two tokens
differ as soon as there is such a set.

That they differ is more than that one piece of them does, for two tokens might be pieced
together differently and come out the same. `AgreeOnlyIf` is what makes the pieces add up: two
texts that agree, with anything behind them, agree piece by piece.

## Main definitions

* `Value.Composed`: The values in question.
* `Value.withDicts`: A value with dictionaries for its capability sets.
* `Value.withTexts`: A value with texts for its capability sets.
* `Value.holdsSet`: Values with a capability set in them.
* `AgreeOnlyIf`: Texts that begin alike under a condition only.

## Theorems

* `Value.same_withDicts`: Dictionaries in place of sets make an equal value.
* `Capabilities.quotedToken_withDicts`: The form with escaped quotes is the same for both.
* `Json.write_withTexts`: What JSON has for a set within a value.
* `Json.write_agree`: The tokens of a value and of the value with dictionaries.
* `Capabilities.token_nested_iff`: When a set and its dictionaries have one token.
-/

namespace ServerLaunch

namespace Value

/-- Values that are made of null, truth values, numbers, texts, lists, and mappings of either
    kind whose names are texts, to any depth. -/
inductive Composed : Value → Prop
  | null : Composed .null
  | bool (b : Bool) : Composed (.bool b)
  | number (n : Number) : Composed (.number n)
  | text (s : String) : Composed (.text s)
  | list {vs : List Value} (h : ∀ v ∈ vs, Composed v) : Composed (.list vs)
  | dict {es : Entries} (hnames : ∀ e ∈ es, ∃ s, e.1 = .text s)
      (h : ∀ e ∈ es, Composed e.2) : Composed (.dict es)
  | caps {es : Entries} (hnames : ∀ e ∈ es, ∃ s, e.1 = .text s)
      (h : ∀ e ∈ es, Composed e.2) : Composed (.caps es)

mutual

/-- A value with a dictionary of the same entries for every capability set in it. -/
def withDicts : Value → Value
  | .list vs => .list (memberDicts vs)
  | .tuple vs => .tuple (memberDicts vs)
  | .dict es => .dict (entryDicts es)
  | .caps es => .dict (entryDicts es)
  | v => v
termination_by structural v => v

/-- Members with dictionaries for capability sets. -/
def memberDicts : List Value → List Value
  | [] => []
  | v :: vs => v.withDicts :: memberDicts vs
termination_by structural vs => vs

/-- Entries with dictionaries for capability sets. -/
def entryDicts : List (Value × Value) → List (Value × Value)
  | [] => []
  | (k, v) :: es => (k, v.withDicts) :: entryDicts es
termination_by structural es => es

end

mutual

/-- A value in which every capability set is the text that it has in a message. -/
def withTexts : Value → Value
  | .list vs => .list (memberTexts vs)
  | .tuple vs => .tuple (memberTexts vs)
  | .dict es => .dict (entryTexts es)
  | .caps es => .text (Value.caps es).displayText
  | v => v
termination_by structural v => v

/-- Members with texts for capability sets. -/
def memberTexts : List Value → List Value
  | [] => []
  | v :: vs => v.withTexts :: memberTexts vs
termination_by structural vs => vs

/-- Entries with texts for capability sets. -/
def entryTexts : List (Value × Value) → List (Value × Value)
  | [] => []
  | (k, v) :: es => (k, v.withTexts) :: entryTexts es
termination_by structural es => es

end

mutual

/-- Whether a value is a capability set or has one somewhere in it. -/
def holdsSet : Value → Bool
  | .caps _ => true
  | .list vs | .tuple vs => membersHoldSet vs
  | .dict es => entriesHoldSet es
  | _ => false
termination_by structural v => v

/-- The same for members. -/
def membersHoldSet : List Value → Bool
  | [] => false
  | v :: vs => v.holdsSet || membersHoldSet vs
termination_by structural vs => vs

/-- The same for entries. -/
def entriesHoldSet : List (Value × Value) → Bool
  | [] => false
  | (_, v) :: es => v.holdsSet || entriesHoldSet es
termination_by structural es => es

end

theorem entryDicts_eq_map (es : Entries) :
    entryDicts es = es.map fun e => (e.1, e.2.withDicts) := by
  induction es with
  | nil => rfl
  | cons e es ih =>
      rcases e with ⟨k, v⟩
      rw [entryDicts, ih, List.map_cons]

mutual

/-- No capability set is left in a value that has dictionaries for them. -/
theorem holdsSet_withDicts : ∀ v : Value, v.withDicts.holdsSet = false
  | .list vs => by rw [withDicts, holdsSet, membersHoldSet_memberDicts vs]
  | .tuple vs => by rw [withDicts, holdsSet, membersHoldSet_memberDicts vs]
  | .dict es => by rw [withDicts, holdsSet, entriesHoldSet_entryDicts es]
  | .caps es => by rw [withDicts, holdsSet, entriesHoldSet_entryDicts es]
  | .null => rfl
  | .bool _ => rfl
  | .number _ => rfl
  | .text _ => rfl
  | .set _ => rfl
  | .path _ => rfl
  | .octets _ => rfl
  | .moment _ => rfl
termination_by structural v => v

theorem membersHoldSet_memberDicts : ∀ vs : List Value, membersHoldSet (memberDicts vs) = false
  | [] => rfl
  | v :: vs => by
      rw [memberDicts, membersHoldSet, holdsSet_withDicts v, membersHoldSet_memberDicts vs,
        Bool.or_false]
termination_by structural vs => vs

theorem entriesHoldSet_entryDicts :
    ∀ es : List (Value × Value), entriesHoldSet (entryDicts es) = false
  | [] => rfl
  | (k, v) :: es => by
      rw [entryDicts, entriesHoldSet, holdsSet_withDicts v, entriesHoldSet_entryDicts es,
        Bool.or_false]
termination_by structural es => es

end

mutual

/-- A value without capability sets stays as it is. -/
theorem withDicts_eq_self : ∀ v : Value, v.holdsSet = false → v.withDicts = v
  | .list vs, h => by rw [withDicts, memberDicts_eq_self vs h]
  | .tuple vs, h => by rw [withDicts, memberDicts_eq_self vs h]
  | .dict es, h => by rw [withDicts, entryDicts_eq_self es h]
  | .caps _, h => by cases h
  | .null, _ => rfl
  | .bool _, _ => rfl
  | .number _, _ => rfl
  | .text _, _ => rfl
  | .set _, _ => rfl
  | .path _, _ => rfl
  | .octets _, _ => rfl
  | .moment _, _ => rfl
termination_by structural v => v

theorem memberDicts_eq_self : ∀ vs : List Value, membersHoldSet vs = false → memberDicts vs = vs
  | [], _ => rfl
  | v :: vs, h => by
      rw [membersHoldSet, Bool.or_eq_false_iff] at h
      rw [memberDicts, withDicts_eq_self v h.1, memberDicts_eq_self vs h.2]
termination_by structural vs => vs

theorem entryDicts_eq_self :
    ∀ es : List (Value × Value), entriesHoldSet es = false → entryDicts es = es
  | [], _ => rfl
  | (k, v) :: es, h => by
      rw [entriesHoldSet, Bool.or_eq_false_iff] at h
      rw [entryDicts, withDicts_eq_self v h.1, entryDicts_eq_self es h.2]
termination_by structural es => es

end

/-! ## Equality -/

theorem sameNumber_self (n : Number) : sameNumber n n = true := by
  rw [sameNumber, decide_eq_true rfl, Bool.or_true]

theorem entriesWithin_of_forall {es fs : Entries}
    (h : ∀ e ∈ es, ∃ f ∈ fs, e.1.same f.1 = true ∧ e.2.same f.2 = true) :
    entriesWithin es fs = true := by
  induction es with
  | nil => rfl
  | cons e es ih =>
      rcases e with ⟨k, v⟩
      rcases h _ List.mem_cons_self with ⟨f, hf, hkey, hvalue⟩
      rw [entriesWithin, ih fun e he => h e (List.mem_cons_of_mem _ he), Bool.and_true,
        List.any_eq_true]
      exact ⟨f, hf, Bool.and_eq_true_iff.mpr ⟨hkey, hvalue⟩⟩

/-- A mapping whose names are texts has as many entries as the one with dictionaries, and each of
    them is in it. -/
theorem matches_entryDicts {es : Entries} (hnames : ∀ e ∈ es, ∃ s, e.1 = .text s)
    (h : ∀ e ∈ es, e.2.same e.2.withDicts = true) :
    (es.length == (entryDicts es).length && entriesWithin es (entryDicts es)) = true := by
  rw [Bool.and_eq_true, beq_iff_eq]
  constructor
  · rw [entryDicts_eq_map, List.length_map]
  · refine entriesWithin_of_forall fun e he => ?_
    rcases hnames e he with ⟨s, hs⟩
    refine ⟨(e.1, e.2.withDicts), ?_, ?_, h e he⟩
    · rw [entryDicts_eq_map]
      exact List.mem_map_of_mem he
    · rw [hs]
      exact Entries.same_text_iff.mpr rfl

theorem sameMembers_memberDicts {vs : List Value} (h : ∀ v ∈ vs, v.same v.withDicts = true) :
    sameMembers vs (memberDicts vs) = true := by
  induction vs with
  | nil => rfl
  | cons v vs ih =>
      rw [memberDicts, sameMembers, h v List.mem_cons_self, Bool.true_and]
      exact ih fun u hu => h u (List.mem_cons_of_mem _ hu)

/-- Dictionaries in place of the capability sets make an equal value. -/
theorem same_withDicts {v : Value} (h : Composed v) : v.same v.withDicts = true := by
  induction h with
  | null => rfl
  | bool b => exact sameNumber_self _
  | number n => exact sameNumber_self n
  | text s => exact Entries.same_text_iff.mpr rfl
  | list _ ih => exact sameMembers_memberDicts ih
  | dict hnames _ ih => exact matches_entryDicts hnames ih
  | caps hnames _ ih => exact matches_entryDicts hnames ih

end Value

namespace Capabilities

/-! ## The form with escaped quotes -/

mutual

/-- The plain form of a value does not tell a capability set from a dictionary. -/
theorem plain_withDicts : ∀ v : Value, plain v.withDicts = plain v
  | .list vs => by rw [Value.withDicts, plain, plain, plains_memberDicts vs]
  | .tuple vs => by rw [Value.withDicts, plain, plain, plains_memberDicts vs]
  | .dict es => by rw [Value.withDicts, plain, plain, plainEntries_entryDicts es]
  | .caps es => by rw [Value.withDicts, plain, plain, plainEntries_entryDicts es]
  | .null => rfl
  | .bool _ => rfl
  | .number _ => rfl
  | .text _ => rfl
  | .set _ => rfl
  | .path _ => rfl
  | .octets _ => rfl
  | .moment _ => rfl
termination_by structural v => v

theorem plains_memberDicts : ∀ vs : List Value, plains (Value.memberDicts vs) = plains vs
  | [] => rfl
  | v :: vs => by rw [Value.memberDicts, plains, plains, plain_withDicts v, plains_memberDicts vs]
termination_by structural vs => vs

theorem plainEntries_entryDicts :
    ∀ es : List (Value × Value), plainEntries (Value.entryDicts es) = plainEntries es
  | [] => rfl
  | (k, v) :: es => by
      rw [Value.entryDicts, plainEntries, plainEntries, plain_withDicts v,
        plainEntries_entryDicts es]
termination_by structural es => es

end

theorem isNull_withDicts (v : Value) : isNull v.withDicts = isNull v := by
  cases v <;> rfl

theorem markedValue_withDicts (name v : Value) :
    markedValue name v.withDicts = markedValue name v := by
  cases v with
  | text s => rfl
  | _ => exact plain_withDicts _

/-- The form with escaped quotes does not tell a capability set from a dictionary, wherever in a
    set it stands. -/
theorem quotedToken_withDicts (es : Entries) :
    quotedToken (some (Value.entryDicts es)) = quotedToken (some es) := by
  have hentry : (fun e : Value × Value => markedEntry (e.1, e.2.withDicts)) = markedEntry := by
    funext e
    rw [markedEntry, markedEntry, markedValue_withDicts]
  simp only [quotedToken, Option.getD_some, quotedChars, Value.entryDicts_eq_map, List.filter_map,
    List.map_map, Function.comp_def, isNull_withDicts, hentry]

end Capabilities

namespace Json

/-! ## JSON -/

mutual

/-- A capability set within a value is written in JSON as the text that it has in a message. -/
theorem write_withTexts : ∀ v : Value, write v.withTexts = write v
  | .list vs => by rw [Value.withTexts, write, write, writeMembers_memberTexts vs]
  | .tuple vs => by rw [Value.withTexts, write, write, writeMembers_memberTexts vs]
  | .dict es => by rw [Value.withTexts, write, write, writeEntries_entryTexts es]
  | .caps es => by rw [Value.withTexts, write, write, Value.displayText, String.toList_ofList]
  | .null => rfl
  | .bool _ => rfl
  | .number _ => rfl
  | .text _ => rfl
  | .set _ => rfl
  | .path _ => rfl
  | .octets _ => rfl
  | .moment _ => rfl
termination_by structural v => v

theorem writeMembers_memberTexts :
    ∀ vs : List Value, writeMembers (Value.memberTexts vs) = writeMembers vs
  | [] => rfl
  | v :: vs => by
      rw [Value.memberTexts, writeMembers, writeMembers, write_withTexts v,
        writeMembers_memberTexts vs]
termination_by structural vs => vs

theorem writeEntries_entryTexts :
    ∀ es : List (Value × Value), writeEntries (Value.entryTexts es) = writeEntries es
  | [] => rfl
  | (k, v) :: es => by
      rw [Value.entryTexts, writeEntries, writeEntries, write_withTexts v,
        writeEntries_entryTexts es]
termination_by structural es => es

end

/-- Two texts begin alike, whatever comes behind either, only under a condition; and if they do,
    they end at one place. -/
def AgreeOnlyIf (p : Prop) (t u : List Char) : Prop :=
  ∀ r s, t ++ r = u ++ s → p ∧ r = s

namespace AgreeOnlyIf

variable {p q : Prop} {t u t' u' : List Char}

theorem self (hp : p) (t : List Char) : AgreeOnlyIf p t t :=
  fun _ _ h => ⟨hp, List.append_cancel_left h⟩

/-- Texts that begin with different characters never agree. -/
theorem of_ne {c d : Char} (h : c ≠ d) (t u : List Char) : AgreeOnlyIf p (c :: t) (d :: u) :=
  fun _ _ heq => absurd (List.cons.inj heq).1 h

theorem mono (h : AgreeOnlyIf p t u) (hpq : p → q) : AgreeOnlyIf q t u :=
  fun r s heq => (h r s heq).imp_left hpq

/-- Texts one behind the other agree only if the first do, and then only if the second do. -/
theorem append (h : AgreeOnlyIf p t u) (h' : AgreeOnlyIf q t' u') :
    AgreeOnlyIf (p ∧ q) (t ++ t') (u ++ u') := by
  intro r s heq
  rw [List.append_assoc, List.append_assoc] at heq
  rcases h _ _ heq with ⟨hp, hrest⟩
  rcases h' r s hrest with ⟨hq, hrs⟩
  exact ⟨⟨hp, hq⟩, hrs⟩

/-- The same texts may stand around two that agree only under a condition. -/
theorem around (h : AgreeOnlyIf p t u) (before after : List Char) :
    AgreeOnlyIf p (before ++ (t ++ after)) (before ++ (u ++ after)) :=
  ((self trivial before).append (h.append (self trivial after))).mono fun hall => hall.2.1

end AgreeOnlyIf

/-- Pieces that agree one by one, and all of them only under a condition. -/
inductive PiecesAgree : Prop → List (List Char) → List (List Char) → Prop
  | nil {p : Prop} (hp : p) : PiecesAgree p [] []
  | cons {p q r : Prop} {t u : List Char} {ts us : List (List Char)} (h : AgreeOnlyIf p t u)
      (hs : PiecesAgree q ts us) (hr : p → q → r) : PiecesAgree r (t :: ts) (u :: us)

/-- With commas between them, pieces agree as a whole only if they do one by one. -/
theorem PiecesAgree.separated {p : Prop} {ts us : List (List Char)} (h : PiecesAgree p ts us) :
    AgreeOnlyIf p (commaTokens ts) (commaTokens us) := by
  induction h with
  | nil hp => exact .self hp []
  | cons h hs hr ih =>
      cases hs with
      | nil hq =>
          rw [commaTokens, commaTokens, List.intercalate_singleton, List.intercalate_singleton]
          exact h.mono fun hp => hr hp hq
      | cons h' hs' hr' =>
          rw [commaTokens, commaTokens, List.intercalate_cons_cons, List.intercalate_cons_cons,
            List.append_assoc, List.append_assoc]
          exact (h.append ((AgreeOnlyIf.self trivial [',']).append ih)).mono
            fun hall => hr hall.1 hall.2.2

/-- Both a value and the value with dictionaries for its capability sets are written, and the two
    tokens agree only if there are none. -/
def AgreesWithDicts (v : Value) : Prop :=
  ∃ t u, write v = .ok t ∧ write v.withDicts = .ok u ∧ AgreeOnlyIf (v.holdsSet = false) t u

theorem writeMembers_agree {vs : List Value} (h : ∀ v ∈ vs, AgreesWithDicts v) :
    ∃ ts us, writeMembers vs = .ok ts ∧ writeMembers (Value.memberDicts vs) = .ok us ∧
      PiecesAgree (Value.membersHoldSet vs = false) ts us := by
  induction vs with
  | nil => exact ⟨[], [], rfl, rfl, .nil rfl⟩
  | cons v vs ih =>
      rcases h v List.mem_cons_self with ⟨t, u, ht, hu, hagree⟩
      rcases ih fun w hw => h w (List.mem_cons_of_mem _ hw) with ⟨ts, us, hts, hus, hpieces⟩
      refine ⟨t :: ts, u :: us, ?_, ?_, .cons hagree hpieces fun hv hvs => ?_⟩
      · rw [writeMembers, ht, hts]
        rfl
      · rw [Value.memberDicts, writeMembers, hu, hus]
        rfl
      · rw [Value.membersHoldSet, hv, hvs, Bool.or_false]

theorem writeEntries_agree {es : Entries} (hnames : ∀ e ∈ es, ∃ s, e.1 = .text s)
    (h : ∀ e ∈ es, AgreesWithDicts e.2) :
    ∃ ts us, writeEntries es = .ok ts ∧ writeEntries (Value.entryDicts es) = .ok us ∧
      PiecesAgree (Value.entriesHoldSet es = false) ts us := by
  induction es with
  | nil => exact ⟨[], [], rfl, rfl, .nil rfl⟩
  | cons e es ih =>
      rcases e with ⟨k, v⟩
      rcases hnames _ List.mem_cons_self with ⟨name, hname⟩
      rcases h _ List.mem_cons_self with ⟨t, u, ht, hu, hagree⟩
      rcases ih (fun e he => hnames e (List.mem_cons_of_mem _ he)) fun e he =>
        h e (List.mem_cons_of_mem _ he) with ⟨ts, us, hts, hus, hpieces⟩
      simp only at hname ht hu hagree
      -- The name is written alike on both sides, so the values decide.
      have hentry : AgreeOnlyIf (v.holdsSet = false) (textToken name.toList ++ ':' :: t)
          (textToken name.toList ++ ':' :: u) :=
        ((AgreeOnlyIf.self trivial _).append ((AgreeOnlyIf.self trivial [':']).append hagree)).mono
          fun hall => hall.2.2
      refine ⟨_, _, ?_, ?_, .cons hentry hpieces fun hv hes => ?_⟩
      · rw [hname, writeEntries, nameToken, ht, hts]
        rfl
      · rw [hname, Value.entryDicts, writeEntries, nameToken, hu, hus]
        rfl
      · rw [Value.entriesHoldSet, hv, hes, Bool.or_false]

/-- Every value in question is written, and so it is with dictionaries; the tokens are two unless
    there is no capability set. -/
theorem write_agree {v : Value} (h : v.Composed) : AgreesWithDicts v := by
  induction h with
  | null => exact ⟨_, _, rfl, rfl, .self rfl _⟩
  | bool b => exact ⟨_, _, rfl, rfl, .self rfl _⟩
  | number n => exact ⟨_, _, rfl, rfl, .self rfl _⟩
  | text s => exact ⟨_, _, rfl, rfl, .self rfl _⟩
  | list _ ih =>
      rcases writeMembers_agree ih with ⟨ts, us, hts, hus, hpieces⟩
      refine ⟨_, _, by rw [write, hts]; rfl, by rw [Value.withDicts, write, hus]; rfl, ?_⟩
      exact hpieces.separated.around ['['] [']']
  | dict hnames _ ih =>
      rcases writeEntries_agree hnames ih with ⟨ts, us, hts, hus, hpieces⟩
      refine ⟨_, _, by rw [write, hts]; rfl, by rw [Value.withDicts, write, hus]; rfl, ?_⟩
      exact hpieces.separated.around ['\x7b'] ['\x7d']
  | caps hnames _ ih =>
      -- A quote opens the text of the set, and a brace the dictionary.
      rcases writeEntries_agree hnames ih with ⟨ts, us, hts, hus, hpieces⟩
      refine ⟨_, _, rfl, by rw [Value.withDicts, write, hus]; rfl, ?_⟩
      exact .of_ne (by decide) _ _

end Json

namespace Capabilities

/-- For every set of capabilities that are made of null, truth values, numbers, texts, lists,
    dictionaries and capability sets, the dictionary in which all sets within it are dictionaries
    is equal to it and has the same token with escaped quotes, in which a set stands as an object.
    Both have a token in JSON as well. There a set within the set stands as the text that it has
    in a message, so the two tokens are one exactly if there is no such set. -/
theorem token_nested_iff {es : Entries} (h : Value.Composed (.caps es)) :
    (Value.caps es).same (.dict (Value.entryDicts es)) = true ∧
      Value.entriesHoldSet (Value.entryDicts es) = false ∧
      quotedToken (some es) = quotedToken (some (Value.entryDicts es)) ∧
      ∃ token token', jsonToken (some es) = .ok token ∧
        jsonToken (some (Value.entryTexts es)) = .ok token ∧
        jsonToken (some (Value.entryDicts es)) = .ok token' ∧
        (token = token' ↔ Value.entriesHoldSet es = false) := by
  have hdict : Value.Composed (.dict es) := by
    cases h with
    | caps hnames hvalues => exact .dict hnames hvalues
  rcases Json.write_agree hdict with ⟨t, u, ht, hu, hagree⟩
  have htexts : Json.write (.dict (Value.entryTexts es)) = .ok t :=
    (Json.write_withTexts (.dict es)).trans ht
  rw [Value.withDicts] at hu
  refine ⟨Value.same_withDicts h, Value.entriesHoldSet_entryDicts es,
    (quotedToken_withDicts es).symm, String.ofList t, String.ofList u, ?_, ?_, ?_, ?_⟩
  · rw [jsonToken, ht, Except.map]
  · rw [jsonToken, htexts, Except.map]
  · rw [jsonToken, hu, Except.map]
  · rw [String.ofList_inj]
    constructor
    · intro heq
      exact (hagree [] [] (congrArg (· ++ []) heq)).1
    · intro hnone
      rw [Value.entryDicts_eq_self es hnone, ht] at hu
      exact Except.ok.inj hu

/-- A set whose settings are a capability set of their own, and which has one in a list. -/
def settingsSample : Entries :=
  [(.text "settings", .caps [(.text "timeout", .int 0)]), (.text "apps", .list [.caps []])]

/-- Both sets within the set are objects in the form with escaped quotes and texts in JSON. -/
theorem token_nested_iff_settings :
    Value.Composed (.caps settingsSample) ∧
      quotedToken (some settingsSample)
        = "\x7b\\\"settings\\\": \x7btimeout=0\x7d, \\\"apps\\\": [\x7b\x7d]\x7d" ∧
      jsonToken (some settingsSample)
        = .ok ("\x7b\"settings\":\"Capabilities(\x7b'timeout': 0\x7d)\"," ++
          "\"apps\":[\"Capabilities(\x7b\x7d)\"]\x7d") ∧
      jsonToken (some settingsSample) ≠ jsonToken (some (Value.entryDicts settingsSample)) := by
  have hinner : Value.Composed (.caps [(.text "timeout", .int 0)]) :=
    .caps (List.forall_mem_singleton.mpr ⟨_, rfl⟩) (List.forall_mem_singleton.mpr (.number _))
  have hempty : Value.Composed (.caps []) := .caps (List.forall_mem_nil _) (List.forall_mem_nil _)
  have hsample : Value.Composed (.caps settingsSample) := by
    refine .caps ?_ ?_
    · exact List.forall_mem_cons.mpr ⟨⟨_, rfl⟩, List.forall_mem_singleton.mpr ⟨_, rfl⟩⟩
    · refine List.forall_mem_cons.mpr ⟨hinner, List.forall_mem_singleton.mpr (.list ?_)⟩
      exact List.forall_mem_singleton.mpr hempty
  rcases token_nested_iff hsample with ⟨_, _, _, token, token', htoken, _, htoken', hsame⟩
  refine ⟨hsample, by decide +kernel, by rfl, fun heq => ?_⟩
  rw [htoken, htoken'] at heq
  exact absurd (hsame.mp (Except.ok.inj heq)) (by decide)

end Capabilities

end ServerLaunch

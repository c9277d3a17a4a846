import Mathlib.Data.Nat.Find
import ServerLaunch.Text.Utf8

/-!
# What a Reading Means

The text that octets stand for, said without a reader, and that the reader finds it.

A text is read off by taking characters away at the front, each with the octets that it is
written with. Where no character is written the octets that are taken away are the longest that
begin one, or a single octet where none does, and U+FFFD stands for them.

The reader is pinned down by one fact: it makes a single character of octets exactly if they are
what the character is written with. That is arithmetic, for the four lengths of a character and
in both directions. The rest is not: a character that is pending can be completed, so the octets
behind it begin a character, and an octet that the reader refuses does not go on with one.

## Main definitions

* `Utf8.IsBeginning`: Octets that some character begins with.
* `Utf8.IsFault`: A maximal invalid part in front of the other octets.
* `Utf8.Reads`: The text that octets stand for.
* `Utf8.readOn`: The symbols that octets complete, and the state after them.

## Theorems

* `Utf8.decode_eq_iff`: Octets make one character if it is written with them.
* `Utf8.decode_fault_append`: A maximal invalid part makes one fault.
* `Utf8.reads_iff`: Octets stand for the text that the reader finds, and for no other.
* `Utf8.reads_toUTF8`: The octets that a text is written with stand for the text.
-/

namespace ServerLaunch

namespace Utf8

open String (utf8EncodeChar)

/-! ## The text that octets stand for -/

/-- Octets that some character begins with, or all of its octets. -/
def IsBeginning (bs : List UInt8) : Prop :=
  ∃ c, bs <+: utf8EncodeChar c

/-- A maximal invalid part in front of the other octets: where no character is written, the
    longest octets that begin one, and a single octet where none does. -/
structure IsFault (bad rest : List UInt8) : Prop where
  nonempty : bad ≠ []
  invalid : ∀ c, ¬ utf8EncodeChar c <+: bad ++ rest
  part : bad.length = 1 ∨ IsBeginning bad
  longest : ∀ bs, bs <+: bad ++ rest → IsBeginning bs → bs.length ≤ bad.length

/-- The text that octets stand for, with U+FFFD for each maximal invalid part. -/
inductive Reads : List UInt8 → List Char → Prop where
  | nil : Reads [] []
  | char {rest : List UInt8} {text : List Char} (c : Char) (h : Reads rest text) :
      Reads (utf8EncodeChar c ++ rest) (c :: text)
  | fault {bad rest : List UInt8} {text : List Char} (hbad : IsFault bad rest)
      (h : Reads rest text) : Reads (bad ++ rest) ('\uFFFD' :: text)

/-- Where no character is written there is a maximal invalid part. -/
theorem exists_isFault {bs : List UInt8} (hne : bs ≠ []) (h : ∀ c, ¬ utf8EncodeChar c <+: bs) :
    ∃ bad rest, bs = bad ++ rest ∧ IsFault bad rest := by
  classical
  obtain ⟨n, hn⟩ : ∃ n, Nat.findGreatest (fun n => IsBeginning (bs.take n)) bs.length = n :=
    ⟨_, rfl⟩
  have hpos : 0 < bs.length := List.length_pos_iff.mpr hne
  have hle : n ≤ bs.length := hn ▸ Nat.findGreatest_le _
  have hlongest : ∀ longer, longer <+: bs → IsBeginning longer → longer.length ≤ n := by
    intro longer hpre hbegin
    rw [List.prefix_iff_eq_take.mp hpre] at hbegin
    exact hn ▸ Nat.le_findGreatest hpre.length_le hbegin
  have hlength : (bs.take (max n 1)).length = max n 1 := by
    rw [List.length_take]
    omega
  -- The part is the longest beginning, or one octet if only the empty one is a beginning.
  refine ⟨bs.take (max n 1), bs.drop (max n 1), (List.take_append_drop _ _).symm, ?_, ?_, ?_, ?_⟩
  · exact List.length_pos_iff.mp (by omega)
  · rwa [List.take_append_drop]
  · by_cases hzero : n = 0
    · exact .inl (by omega)
    · refine .inr ?_
      rw [max_eq_left (by omega)]
      exact Nat.findGreatest_of_ne_zero hn hzero
  · rw [List.take_append_drop, hlength]
    exact fun longer hpre hbegin => Nat.le_trans (hlongest longer hpre hbegin) (Nat.le_max_left _ _)

/-! ## One character -/

theorem code_valid (c : Char) : c.toNat < 0xD800 ∨ 0xDFFF < c.toNat ∧ c.toNat < 0x110000 :=
  c.valid

theorem toNat_ofNat {n : Nat} (h : n < 0xD800 ∨ 0xDFFF < n ∧ n < 0x110000) :
    (Char.ofNat n).toNat = n := by
  unfold Char.ofNat
  rw [dif_pos h]
  rfl

/-- There is an octet for each number below 256. -/
theorem exists_octet {n : Nat} (h : n < 256) : ∃ a : UInt8, a.toNat = n :=
  ⟨UInt8.ofNat n, UInt8.toNat_ofNat_of_lt' h⟩

theorem ofNat_eq {a : UInt8} {n : Nat} (h : a.toNat = n) : UInt8.ofNat n = a := by
  rw [← h, UInt8.ofNat_toNat]

/-! ### Characters as they are written -/

section Written

variable {v : Nat} {c : Char} {a b d e : UInt8}

theorem encode_one (hc : c.toNat = v) (h : v < 0x80) (ha : a.toNat = v) :
    utf8EncodeChar c = [a] := by
  unfold utf8EncodeChar
  rw [show c.val.toNat = v from hc]
  simp only
  rw [if_pos (by omega), ofNat_eq ha]

theorem encode_two (hc : c.toNat = v) (hlow : 0x80 ≤ v) (hhigh : v < 0x800)
    (ha : a.toNat = 0xC0 + v / 64) (hb : b.toNat = 0x80 + v % 64) :
    utf8EncodeChar c = [a, b] := by
  unfold utf8EncodeChar
  rw [show c.val.toNat = v from hc]
  simp only
  rw [if_neg (by omega), if_pos (by omega), ofNat_eq (a := a) (by omega),
    ofNat_eq (a := b) (by omega)]

theorem encode_three (hc : c.toNat = v) (hlow : 0x800 ≤ v) (hhigh : v < 0x10000)
    (ha : a.toNat = 0xE0 + v / 4096) (hb : b.toNat = 0x80 + v / 64 % 64)
    (hd : d.toNat = 0x80 + v % 64) : utf8EncodeChar c = [a, b, d] := by
  unfold utf8EncodeChar
  rw [show c.val.toNat = v from hc]
  simp only
  rw [if_neg (by omega), if_neg (by omega), if_pos (by omega), ofNat_eq (a := a) (by omega),
    ofNat_eq (a := b) (by omega), ofNat_eq (a := d) (by omega)]

theorem encode_four (hc : c.toNat = v) (hlow : 0x10000 ≤ v)
    (ha : a.toNat = 0xF0 + v / 262144) (hb : b.toNat = 0x80 + v / 4096 % 64)
    (hd : d.toNat = 0x80 + v / 64 % 64) (he : e.toNat = 0x80 + v % 64) :
    utf8EncodeChar c = [a, b, d, e] := by
  have hvalid := code_valid c
  unfold utf8EncodeChar
  rw [show c.val.toNat = v from hc]
  simp only
  rw [if_neg (by omega), if_neg (by omega), if_neg (by omega), ofNat_eq (a := a) (by omega),
    ofNat_eq (a := b) (by omega), ofNat_eq (a := d) (by omega), ofNat_eq (a := e) (by omega)]

end Written

/-! ### The first octet, and a further one -/

theorem start_one {a : UInt8} (h : a.toNat < 0x80) :
    start a = ([some (Char.ofNat a.toNat)], none) :=
  if_pos h

theorem start_two {a : UInt8} (hlow : 0xC2 ≤ a.toNat) (hhigh : a.toNat < 0xE0) :
    start a = ([], some ⟨1, 0x80, 0xBF, a.toNat - 0xC0⟩) := by
  unfold start
  simp only
  rw [if_neg (by omega), if_neg (by omega), if_pos hhigh]

theorem start_three {a : UInt8} (hlow : 0xE0 ≤ a.toNat) (hhigh : a.toNat < 0xF0) :
    start a = ([], some ⟨2, if a.toNat = 0xE0 then 0xA0 else 0x80,
      if a.toNat = 0xED then 0x9F else 0xBF, a.toNat - 0xE0⟩) := by
  unfold start
  simp only [beq_iff_eq]
  rw [if_neg (by omega), if_neg (by omega), if_neg (by omega), if_pos hhigh]

theorem start_four {a : UInt8} (hlow : 0xF0 ≤ a.toNat) (hhigh : a.toNat < 0xF5) :
    start a = ([], some ⟨3, if a.toNat = 0xF0 then 0x90 else 0x80,
      if a.toNat = 0xF4 then 0x8F else 0xBF, a.toNat - 0xF0⟩) := by
  unfold start
  simp only [beq_iff_eq]
  rw [if_neg (by omega), if_neg (by omega), if_neg (by omega), if_neg (by omega), if_pos hhigh]

theorem start_bad {a : UInt8} (h : 0x80 ≤ a.toNat ∧ a.toNat < 0xC2 ∨ 0xF5 ≤ a.toNat) :
    start a = ([none], none) := by
  unfold start
  simp only
  rcases h with ⟨h1, h2⟩ | h
  · rw [if_neg (by omega), if_pos h2]
  · rw [if_neg (by omega), if_neg (by omega), if_neg (by omega), if_neg (by omega),
      if_neg (by omega)]

/-- There is an octet with which a pending character goes on. -/
def Pending.Admits (p : Pending) : Prop :=
  p.least ≤ p.most ∧ p.most < 256

theorem admits_next (missing bits : Nat) : Pending.Admits ⟨missing, 0x80, 0xBF, bits⟩ :=
  ⟨Nat.le_of_ble_eq_true rfl, Nat.le_of_ble_eq_true rfl⟩

/-- A first octet is a character, begins one, or is a fault. -/
theorem start_cases (b : UInt8) :
    (∃ c, start b = ([some c], none)) ∨ (∃ p, start b = ([], some p) ∧ p.Admits) ∨
      start b = ([none], none) := by
  by_cases h1 : b.toNat < 0x80
  · exact .inl ⟨_, start_one h1⟩
  by_cases h2 : b.toNat < 0xC2
  · exact .inr (.inr (start_bad (.inl ⟨by omega, h2⟩)))
  by_cases h3 : b.toNat < 0xE0
  · exact .inr (.inl ⟨_, start_two (by omega) h3, admits_next _ _⟩)
  by_cases h4 : b.toNat < 0xF0
  · refine .inr (.inl ⟨_, start_three (by omega) h4, ?_, ?_⟩)
    · dsimp only
      split <;> split <;> omega
    · dsimp only
      split <;> omega
  by_cases h5 : b.toNat < 0xF5
  · refine .inr (.inl ⟨_, start_four (by omega) h5, ?_, ?_⟩)
    · dsimp only
      split <;> split <;> omega
    · dsimp only
      split <;> omega
  · exact .inr (.inr (start_bad (.inr (by omega))))

theorem step_last {p : Pending} {b : UInt8} (hb : p.least ≤ b.toNat ∧ b.toNat ≤ p.most)
    (hm : p.missing ≤ 1) :
    step (some p) b = ([some (Char.ofNat (64 * p.bits + (b.toNat - 0x80)))], none) := by
  simp only [step, Bool.and_eq_true, decide_eq_true_eq]
  rw [if_pos hb, if_pos hm]

theorem step_more {p : Pending} {b : UInt8} (hb : p.least ≤ b.toNat ∧ b.toNat ≤ p.most)
    (hm : ¬ p.missing ≤ 1) :
    step (some p) b =
      ([], some ⟨p.missing - 1, 0x80, 0xBF, 64 * p.bits + (b.toNat - 0x80)⟩) := by
  simp only [step, Bool.and_eq_true, decide_eq_true_eq]
  rw [if_pos hb, if_neg hm]

theorem step_refused {p : Pending} {b : UInt8} (hb : ¬ (p.least ≤ b.toNat ∧ b.toNat ≤ p.most)) :
    step (some p) b = (none :: (start b).1, (start b).2) := by
  simp only [step, Bool.and_eq_true, decide_eq_true_eq]
  rw [if_neg hb]

/-- An octet makes a symbol or leaves a character pending. -/
theorem step_ne {s : Option Pending} {b : UInt8} : step s b ≠ ([], none) := by
  cases s with
  | none =>
      rcases start_cases b with ⟨c, h⟩ | ⟨p, h, -⟩ | h
      all_goals
        rw [step, h]
        exact fun h => nomatch h
  | some p =>
      by_cases hb : p.least ≤ b.toNat ∧ b.toNat ≤ p.most
      · by_cases hm : p.missing ≤ 1
        · rw [step_last hb hm]
          exact fun h => nomatch h
        · rw [step_more hb hm]
          exact fun h => nomatch h
      · rw [step_refused hb]
        exact fun h => nomatch h

/-! ### Octets and their characters -/

theorem finish_eq_nil {s : Option Pending} (h : finish s = []) : s = none := by
  cases s with
  | none => rfl
  | some p => cases h

theorem decodeFrom_eq_nil {s : Option Pending} {bs : List UInt8} (h : decodeFrom s bs = []) :
    s = none ∧ bs = [] := by
  induction bs generalizing s with
  | nil => exact ⟨finish_eq_nil h, rfl⟩
  | cons b rest ih =>
      exfalso
      rw [decodeFrom, List.append_eq_nil_iff] at h
      exact step_ne (Prod.ext h.1 (ih h.2).1)

/-- How a pending character is completed: by an octet within its bounds, and by the octets that
    are still missing then. -/
theorem decodeFrom_some_iff {p : Pending} {bs : List UInt8} {c : Char} :
    decodeFrom (some p) bs = [some c] ↔
      ∃ b rest, bs = b :: rest ∧ (p.least ≤ b.toNat ∧ b.toNat ≤ p.most) ∧
        if p.missing ≤ 1 then rest = [] ∧ Char.ofNat (64 * p.bits + (b.toNat - 0x80)) = c
        else decodeFrom (some ⟨p.missing - 1, 0x80, 0xBF, 64 * p.bits + (b.toNat - 0x80)⟩) rest =
          [some c] := by
  constructor
  · intro h
    cases bs with
    | nil => cases (List.cons.inj h).1
    | cons b rest =>
        rw [decodeFrom] at h
        by_cases hb : p.least ≤ b.toNat ∧ b.toNat ≤ p.most
        · refine ⟨b, rest, rfl, hb, ?_⟩
          by_cases hm : p.missing ≤ 1
          · rw [step_last hb hm] at h
            obtain ⟨hc, hrest⟩ := List.cons.inj h
            rw [if_pos hm]
            exact ⟨(decodeFrom_eq_nil hrest).2, Option.some.inj hc⟩
          · rw [step_more hb hm] at h
            rw [if_neg hm]
            exact h
        · rw [step_refused hb] at h
          cases (List.cons.inj h).1
  · rintro ⟨b, rest, rfl, hb, h⟩
    rw [decodeFrom]
    by_cases hm : p.missing ≤ 1
    · rw [if_pos hm] at h
      rw [step_last hb hm, h.1, h.2]
      rfl
    · rw [if_neg hm] at h
      rw [step_more hb hm]
      exact h

theorem decode_cons (a : UInt8) (rest : List UInt8) :
    decode (a :: rest) = (start a).1 ++ decodeFrom (start a).2 rest := rfl

theorem decode_encode (c : Char) : decode (utf8EncodeChar c) = [some c] := by
  have hvalid := code_valid c
  obtain ⟨v, hc⟩ : ∃ v, c.toNat = v := ⟨_, rfl⟩
  rw [hc] at hvalid
  -- It is enough that the number that is read is the code of the character.
  have hof : ∀ {n : Nat}, n = v → Char.ofNat n = c := by
    rintro n rfl
    rw [← hc, Char.ofNat_toNat]
  by_cases h1 : v < 0x80
  · rcases exists_octet (n := v) (by omega) with ⟨a, ha⟩
    rw [encode_one hc h1 ha, decode_cons, start_one (by omega), hof ha]
    rfl
  rcases exists_octet (n := 0x80 + v % 64) (by omega) with ⟨e, he⟩
  by_cases h2 : v < 0x800
  · rcases exists_octet (n := 0xC0 + v / 64) (by omega) with ⟨a, ha⟩
    rw [encode_two hc (by omega) h2 ha he, decode_cons, start_two (by omega) (by omega)]
    refine decodeFrom_some_iff.mpr ⟨e, [], rfl, ?_, rfl, hof ?_⟩ <;> dsimp only <;> omega
  rcases exists_octet (n := 0x80 + v / 64 % 64) (by omega) with ⟨d, hd⟩
  by_cases h3 : v < 0x10000
  · rcases exists_octet (n := 0xE0 + v / 4096) (by omega) with ⟨a, ha⟩
    rw [encode_three hc (by omega) h3 ha hd he, decode_cons, start_three (by omega) (by omega)]
    refine decodeFrom_some_iff.mpr ⟨d, [e], rfl, ?_,
      decodeFrom_some_iff.mpr ⟨e, [], rfl, ?_, rfl, hof ?_⟩⟩ <;> dsimp only
    · split <;> split <;> omega
    · omega
    · omega
  · rcases exists_octet (n := 0x80 + v / 4096 % 64) (by omega) with ⟨b, hb⟩
    rcases exists_octet (n := 0xF0 + v / 262144) (by omega) with ⟨a, ha⟩
    rw [encode_four hc (by omega) ha hb hd he, decode_cons, start_four (by omega) (by omega)]
    refine decodeFrom_some_iff.mpr ⟨b, [d, e], rfl, ?_, decodeFrom_some_iff.mpr ⟨d, [e], rfl, ?_,
      decodeFrom_some_iff.mpr ⟨e, [], rfl, ?_, rfl, hof ?_⟩⟩⟩ <;> dsimp only
    · split <;> split <;> omega
    all_goals omega

theorem eq_encode_of_decode {bs : List UInt8} {c : Char} (h : decode bs = [some c]) :
    bs = utf8EncodeChar c := by
  cases bs with
  | nil => cases h
  | cons a rest =>
      rw [decode_cons] at h
      by_cases h1 : a.toNat < 0x80
      · rw [start_one h1] at h
        obtain ⟨hc, hrest⟩ := List.cons.inj h
        obtain rfl := Option.some.inj hc
        obtain ⟨-, rfl⟩ := decodeFrom_eq_nil hrest
        exact (encode_one (toNat_ofNat (by omega)) h1 rfl).symm
      by_cases h2 : a.toNat < 0xC2
      · rw [start_bad (.inl ⟨by omega, h2⟩)] at h
        cases (List.cons.inj h).1
      by_cases h3 : a.toNat < 0xE0
      · rw [start_two (by omega) h3] at h
        rcases decodeFrom_some_iff.mp h with ⟨b, _, rfl, hb, rfl, rfl⟩
        dsimp only at hb ⊢
        exact (encode_two (toNat_ofNat (by omega)) (by omega) (by omega) (by omega)
          (by omega)).symm
      by_cases h4 : a.toNat < 0xF0
      · rw [start_three (by omega) h4] at h
        rcases decodeFrom_some_iff.mp h with ⟨b, _, rfl, hb, h⟩
        rcases decodeFrom_some_iff.mp h with ⟨d, _, rfl, hd, rfl, rfl⟩
        dsimp only at hb hd ⊢
        -- The bounds on the second octet are what rules out overlong forms and surrogates.
        split at hb <;> split at hb <;>
        exact (encode_three (toNat_ofNat (by omega)) (by omega) (by omega) (by omega) (by omega)
          (by omega)).symm
      by_cases h5 : a.toNat < 0xF5
      · rw [start_four (by omega) h5] at h
        rcases decodeFrom_some_iff.mp h with ⟨b, _, rfl, hb, h⟩
        rcases decodeFrom_some_iff.mp h with ⟨d, _, rfl, hd, h⟩
        rcases decodeFrom_some_iff.mp h with ⟨e, _, rfl, he, rfl, rfl⟩
        dsimp only at hb hd he ⊢
        split at hb <;> split at hb <;>
        exact (encode_four (toNat_ofNat (by omega)) (by omega) (by omega) (by omega) (by omega)
          (by omega)).symm
      · rw [start_bad (.inr (by omega))] at h
        cases (List.cons.inj h).1

/-- Octets make one character if it is written with them. -/
theorem decode_eq_iff {bs : List UInt8} {c : Char} :
    decode bs = [some c] ↔ bs = utf8EncodeChar c :=
  ⟨eq_encode_of_decode, fun h => h ▸ decode_encode c⟩

/-! ## In pieces -/

/-- The symbols that octets complete, and the state after them. -/
def readOn (s : Option Pending) : List UInt8 → Symbols × Option Pending
  | [] => ([], s)
  | b :: rest =>
    ((step s b).1 ++ (readOn (step s b).2 rest).1, (readOn (step s b).2 rest).2)

theorem decodeFrom_append (s : Option Pending) (front tail : List UInt8) :
    decodeFrom s (front ++ tail) = (readOn s front).1 ++ decodeFrom (readOn s front).2 tail := by
  induction front generalizing s with
  | nil => rfl
  | cons b front ih => rw [List.cons_append, decodeFrom, ih, readOn, List.append_assoc]

theorem exists_pending_of_readOn {s : Option Pending} {front : List UInt8} (hne : front ≠ [])
    (h : (readOn s front).1 = []) : ∃ p, (readOn s front).2 = some p := by
  induction front generalizing s with
  | nil => exact absurd rfl hne
  | cons b front ih =>
      rw [readOn, List.append_eq_nil_iff] at h
      cases front with
      | nil =>
          cases hp : (step s b).2 with
          | none => exact absurd (Prod.ext h.1 hp) step_ne
          | some p => exact ⟨p, hp⟩
      | cons b' front => exact ih (List.cons_ne_nil _ _) h.2

/-- Octets with which a character begins, and that are not all of it, leave one pending. -/
theorem readOn_of_prefix {front tail : List UInt8} {c : Char} (hne : front ≠ [])
    (htail : tail ≠ []) (h : front ++ tail = utf8EncodeChar c) :
    ∃ p, readOn none front = ([], some p) := by
  have hwhole : (readOn none front).1 ++ decodeFrom (readOn none front).2 tail = [some c] := by
    rw [← decodeFrom_append, h]
    exact decode_encode c
  rcases List.append_eq_singleton_iff.mp hwhole with ⟨hnone, -⟩ | ⟨-, hrest⟩
  · rcases exists_pending_of_readOn hne hnone with ⟨p, hp⟩
    exact ⟨p, Prod.ext hnone hp⟩
  · exact absurd (decodeFrom_eq_nil hrest).2 htail

/-! ## Pending characters can be completed -/

/-- With an octet that a pending character admits, some character is completed. -/
theorem exists_completion {p : Pending} {b : UInt8}
    (hb : p.least ≤ b.toNat ∧ b.toNat ≤ p.most) :
    ∃ tail c, decodeFrom (some p) (b :: tail) = [some c] := by
  by_cases hm : p.missing ≤ 1
  · refine ⟨[], Char.ofNat (64 * p.bits + (b.toNat - 0x80)), ?_⟩
    rw [decodeFrom, step_last hb hm]
    rfl
  · have hnext : 0x80 ≤ (0x80 : UInt8).toNat ∧ (0x80 : UInt8).toNat ≤ 0xBF := by decide
    rcases exists_completion
        (p := ⟨p.missing - 1, 0x80, 0xBF, 64 * p.bits + (b.toNat - 0x80)⟩) hnext with
      ⟨tail, c, htail⟩
    refine ⟨0x80 :: tail, c, ?_⟩
    rw [decodeFrom, step_more hb hm]
    exact htail
termination_by p.missing
decreasing_by exact Nat.sub_lt (by omega) Nat.one_pos

/-- Octets that leave a character pending begin one, with an octet that it admits too. -/
theorem isBeginning_of_readOn {front : List UInt8} {p : Pending} {b : UInt8}
    (h : readOn none front = ([], some p)) (hb : p.least ≤ b.toNat ∧ b.toNat ≤ p.most) :
    IsBeginning (front ++ [b]) := by
  rcases exists_completion hb with ⟨tail, c, htail⟩
  have hwhole : decode (front ++ b :: tail) = [some c] := by
    rw [decode, decodeFrom_append, h]
    exact htail
  refine ⟨c, tail, ?_⟩
  rw [List.append_assoc]
  exact eq_encode_of_decode hwhole

/-- A first octet that leaves a character pending begins one. -/
theorem isBeginning_of_start {b : UInt8} {p : Pending} (h : start b = ([], some p))
    (hp : p.Admits) : IsBeginning [b] := by
  rcases exists_octet (Nat.lt_of_le_of_lt hp.1 hp.2) with ⟨b', hb'⟩
  have hread : readOn none [b] = ([], some p) := by
    rw [readOn, step, h]
    rfl
  rcases isBeginning_of_readOn hread (b := b') ⟨hb'.symm ▸ Nat.le_refl _, hb'.symm ▸ hp.1⟩ with
    ⟨c, hc⟩
  exact ⟨c, (List.prefix_append _ _).trans hc⟩

/-! ## Taking away from the front -/

/-- A written character is read, and what follows is read from the start. -/
theorem decode_char_append (c : Char) (rest : List UInt8) :
    decode (utf8EncodeChar c ++ rest) = some c :: decode rest := by
  have hread : readOn none (utf8EncodeChar c) = ([some c], none) := by
    have hwhole : (readOn none (utf8EncodeChar c)).1 ++ finish (readOn none (utf8EncodeChar c)).2 =
        [some c] := by
      rw [← decode_encode c, decode, ← List.append_nil (utf8EncodeChar c), decodeFrom_append,
        List.append_nil]
      rfl
    cases hs : (readOn none (utf8EncodeChar c)).2 with
    | none =>
        rw [hs, finish, List.append_nil] at hwhole
        exact Prod.ext hwhole hs
    | some p =>
        rw [hs, finish] at hwhole
        rcases List.append_eq_singleton_iff.mp hwhole with ⟨-, h⟩ | ⟨-, h⟩
        · cases (List.cons.inj h).1
        · cases h
  rw [decode, decodeFrom_append, hread]
  rfl

/-- A maximal invalid part makes one fault, and what follows is read from the start. -/
theorem decode_fault_append {bad rest : List UInt8} (h : IsFault bad rest) :
    decode (bad ++ rest) = none :: decode rest := by
  by_cases hbegin : IsBeginning bad
  · rcases hbegin with ⟨c, tail, hc⟩
    have htail : tail ≠ [] := by
      rintro rfl
      refine h.invalid c ?_
      rw [← hc, List.append_nil]
      exact List.prefix_append _ _
    rcases readOn_of_prefix h.nonempty htail hc with ⟨p, hp⟩
    rw [decode, decodeFrom_append, hp]
    cases rest with
    | nil => rfl
    | cons b rest =>
        -- An octet that goes on with the character would make the part longer.
        have hb : ¬ (p.least ≤ b.toNat ∧ b.toNat ≤ p.most) := by
          intro hb
          have hlonger := h.longest (bad ++ [b]) ⟨rest, by rw [List.append_assoc]; rfl⟩
            (isBeginning_of_readOn hp hb)
          rw [List.length_append, List.length_singleton] at hlonger
          exact Nat.not_succ_le_self _ hlonger
        rw [decodeFrom, step_refused hb]
        rfl
  · rcases List.length_eq_one_iff.mp (h.part.resolve_right hbegin) with ⟨b, rfl⟩
    rcases start_cases b with ⟨c, hb⟩ | ⟨p, hb, hp⟩ | hb
    · have hone : decode [b] = [some c] := by
        rw [decode_cons, hb]
        rfl
      refine absurd ?_ (h.invalid c)
      rw [← decode_eq_iff.mp hone]
      exact List.prefix_append _ _
    · exact absurd (isBeginning_of_start hb hp) hbegin
    · rw [List.singleton_append, decode_cons, hb]
      rfl

/-! ## The reader -/

theorem decodeLossy_char_append (c : Char) (rest : List UInt8) :
    decodeLossy (utf8EncodeChar c ++ rest) = c :: decodeLossy rest := by
  rw [decodeLossy, decode_char_append]
  rfl

theorem decodeLossy_fault_append {bad rest : List UInt8} (h : IsFault bad rest) :
    decodeLossy (bad ++ rest) = '\uFFFD' :: decodeLossy rest := by
  rw [decodeLossy, decode_fault_append h]
  rfl

/-- Octets stand for the text that the reader finds. -/
theorem reads_decodeLossy (bs : List UInt8) : Reads bs (decodeLossy bs) := by
  -- By induction on the length, because what is taken away at the front is not one octet.
  induction hn : bs.length using Nat.strongRecOn generalizing bs with
  | _ n ih =>
      by_cases hne : bs = []
      · rw [hne]
        exact .nil
      by_cases hchar : ∃ c, utf8EncodeChar c <+: bs
      · rcases hchar with ⟨c, rest, rfl⟩
        have hpos := List.length_pos_iff.mpr (String.utf8EncodeChar_ne_nil (c := c))
        rw [List.length_append] at hn
        rw [decodeLossy_char_append]
        exact .char c (ih rest.length (by omega) rest rfl)
      · rcases exists_isFault hne (not_exists.mp hchar) with ⟨bad, rest, rfl, hbad⟩
        have hpos := List.length_pos_iff.mpr hbad.nonempty
        rw [List.length_append] at hn
        rw [decodeLossy_fault_append hbad]
        exact .fault hbad (ih rest.length (by omega) rest rfl)

/-- Octets stand for the text that the reader finds, and for no other. -/
theorem reads_iff {bs : List UInt8} {text : List Char} :
    Reads bs text ↔ decodeLossy bs = text := by
  constructor
  · intro h
    induction h with
    | nil => rfl
    | char c _ ih => rw [decodeLossy_char_append, ih]
    | fault hbad _ ih => rw [decodeLossy_fault_append hbad, ih]
  · rintro rfl
    exact reads_decodeLossy bs

theorem toUTF8_eq (s : String) : s.toUTF8.data.toList = s.toList.flatMap utf8EncodeChar := by
  conv =>
    lhs
    rw [← String.ofList_toList (s := s)]
  rw [String.toUTF8_eq_toByteArray, String.toByteArray_ofList, List.utf8Encode,
    List.data_toByteArray]

/-- The octets that a text is written with stand for the text. -/
theorem reads_toUTF8 (s : String) : Reads s.toUTF8.data.toList s.toList := by
  rw [toUTF8_eq]
  induction s.toList with
  | nil => exact .nil
  | cons c cs ih =>
      rw [List.flatMap_cons]
      exact .char c ih

end Utf8

end ServerLaunch

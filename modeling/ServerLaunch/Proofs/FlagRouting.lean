import ServerLaunch.Proofs.Tables

/-!
# Flags One After the Other

What a builder holds after a number of flags.

A flag with a value goes into the field that the builder has for it, or into the table; a flag
without one always goes into the table. Of several that go the same way the last counts. The
builder does not remember the others, but each of them was looked at: it had to be acceptable
even if it counts for nothing in the end.

What the builder holds is stated for the whole of the flags so far, from which one more flag
leads to the whole with that flag at the end.

## Main definitions

* `lastGiven?`: The last value that flags of a kind were given.
* `isKept`, `keptText`: Flags of the table, and what is kept for them.
* `KeepsFlags`, `TakesFlags`: What a table, and a builder, hold after a number of flags.
* `addFlags`: A number of flags, one after the other.
* `IsAcceptable`: Flags that are not refused.

## Theorems

* `TakesFlags.step`, `TakesFlags.run`: One more flag, and more of them.
* `addArgument_isOk_iff`, `addFlags_isOk_iff`: When flags are refused.
-/

namespace ServerLaunch

/-- A flag and its value, if it has one. -/
abbrev Flag := String × Option String

section Given

/-- The last value that flags of a kind were given. -/
def lastGiven? (kind : String → Bool) (flags : List Flag) : Option String :=
  (flags.filterMap fun e => if kind e.1 then e.2 else none).getLast?

theorem lastGiven?_concat (kind : String → Bool) (flags : List Flag) (e : Flag) :
    lastGiven? kind (flags ++ [e])
      = if kind e.1 then e.2.or (lastGiven? kind flags) else lastGiven? kind flags := by
  rcases e with ⟨name, value⟩
  unfold lastGiven?
  rw [List.filterMap_append, List.getLast?_append]
  by_cases h : kind name
  · cases value with
    | none => rw [if_pos h, List.filterMap_cons, if_pos h]; rfl
    | some text => rw [if_pos h, List.filterMap_cons, if_pos h]; rfl
  · rw [if_neg h, List.filterMap_cons, if_neg h]
    rfl

theorem lastGiven?_concat_of_not {kind : String → Bool} {flags : List Flag} {e : Flag}
    (h : kind e.1 = false) : lastGiven? kind (flags ++ [e]) = lastGiven? kind flags := by
  rw [lastGiven?_concat, h, if_neg Bool.false_ne_true]

/-- A flag without a value gives none. -/
theorem lastGiven?_concat_none (kind : String → Bool) (flags : List Flag) (name : String) :
    lastGiven? kind (flags ++ [(name, none)]) = lastGiven? kind flags := by
  rw [lastGiven?_concat]
  split
  · rfl
  · rfl

end Given

namespace Builder

section Kept

/-- Whether a builder has a field for the value of a flag. -/
def hasField (name : String) : Bool :=
  isPortFlag name || isAddressFlag name || isLogFlag name

/-- Whether a flag goes into the table. -/
def isKept (e : Flag) : Bool :=
  e.2.isNone || !hasField e.1

/-- The text that is kept for a flag: none for a switch, and a base path in its own form. -/
def keptText (name : String) (value : Option String) : Except LaunchError String :=
  match value with
  | none => .ok ""
  | some text => if name = basePathFlag then sanitizeBasePath (some text) else .ok text

/-- A table has the kept flags, each at its first place and with the text for its last value,
    and nothing else. -/
structure KeepsFlags (flags : List Flag) (table : Table String) : Prop where
  names : table.map Prod.fst = ((flags.filter isKept).map Prod.fst).eraseDups
  texts : ∀ name, match Table.lastValue? (flags.filter isKept) name with
    | some value => ∃ text, keptText name value = .ok text ∧ table.lookup name = some text
    | none => table.lookup name = none

theorem KeepsFlags.nil : KeepsFlags [] [] :=
  ⟨rfl, fun _ => rfl⟩

theorem KeepsFlags.unkept {flags : List Flag} {table : Table String} (h : KeepsFlags flags table)
    {e : Flag} (he : isKept e = false) : KeepsFlags (flags ++ [e]) table := by
  have hsame : (flags ++ [e]).filter isKept = flags.filter isKept := by
    rw [List.filter_append, List.filter_cons_of_neg (Bool.eq_false_iff.mp he), List.filter_nil,
      List.append_nil]
  exact ⟨hsame ▸ h.names, hsame ▸ h.texts⟩

theorem KeepsFlags.put {flags : List Flag} {table : Table String} (h : KeepsFlags flags table)
    {name text : String} {value : Option String} (he : isKept (name, value))
    (htext : keptText name value = .ok text) :
    KeepsFlags (flags ++ [(name, value)]) (table.put name text) := by
  have hmore : (flags ++ [(name, value)]).filter isKept
      = flags.filter isKept ++ [(name, value)] := by
    rw [List.filter_append, List.filter_cons_of_pos he, List.filter_nil]
  -- A name that is there keeps its place, and only its own text is replaced.
  refine ⟨?_, fun key => ?_⟩
  · rw [hmore, List.map_append, List.map_singleton, Table.eraseDups_concat, Table.names_put,
      h.names]
    simp only [List.mem_eraseDups]
  · rw [hmore, Table.lastValue?_concat, Table.lookup_put]
    by_cases hkey : name = key
    · rw [if_pos hkey, if_pos hkey, ← hkey]
      exact ⟨text, htext, rfl⟩
    · rw [if_neg hkey, if_neg hkey]
      exact h.texts key

end Kept

section Taken

/-- What a builder holds after a number of flags, if it had an empty table before. -/
structure TakesFlags (b₀ : Builder) (flags : List Flag) (b : Builder) : Prop where
  port : match lastGiven? isPortFlag flags with
    | some text => Numeral.readInteger text = .ok b.port
    | none => b.port = b₀.port
  address : b.address = (lastGiven? isAddressFlag flags).or b₀.address
  logFile : b.logFile = ((lastGiven? isLogFlag flags).map Path.ofString).or b₀.logFile
  timeout : b.timeout = b₀.timeout
  capabilities : b.capabilities = b₀.capabilities
  arguments : KeepsFlags flags b.arguments

variable {b₀ b b' : Builder} {flags : List Flag}

theorem TakesFlags.nil (h : b₀.arguments = []) : TakesFlags b₀ [] b₀ :=
  ⟨rfl, rfl, rfl, rfl, rfl, h ▸ .nil⟩

/-- A flag that goes into the table leaves the fields as they are. -/
theorem TakesFlags.put (h : TakesFlags b₀ flags b) {name text : String} {value : Option String}
    (hfield : value = none ∨ hasField name = false) (htext : keptText name value = .ok text) :
    TakesFlags b₀ (flags ++ [(name, value)]) (b.putArgument name text) := by
  -- For each kind it is either no value or no flag of the kind.
  have hgiven (kind : String → Bool) (hkind : kind name → hasField name) :
      lastGiven? kind (flags ++ [(name, value)]) = lastGiven? kind flags := by
    rcases hfield with rfl | hnone
    · exact lastGiven?_concat_none kind flags name
    · exact lastGiven?_concat_of_not (Bool.eq_false_iff.mpr fun hn =>
        Bool.eq_false_iff.mp hnone (hkind hn))
  have hkept : isKept (name, value) := by
    rcases hfield with rfl | hnone
    · rfl
    · simp only [isKept, hnone, Bool.not_false, Bool.or_true]
  refine ⟨?_, ?_, ?_, h.timeout, h.capabilities, h.arguments.put hkept htext⟩
  · rw [hgiven isPortFlag fun hn => by simp only [hasField, hn, Bool.true_or]]
    exact h.port
  · rw [hgiven isAddressFlag fun hn => by simp only [hasField, hn, Bool.true_or, Bool.or_true]]
    exact h.address
  · rw [hgiven isLogFlag fun hn => by simp only [hasField, hn, Bool.or_true]]
    exact h.logFile

/-- The three kinds of flags with fields have no names in common. -/
theorem kinds_apart (name : String) :
    (isPortFlag name → isAddressFlag name = false ∧ isLogFlag name = false) ∧
      (isAddressFlag name → isPortFlag name = false ∧ isLogFlag name = false) ∧
      (isLogFlag name → isPortFlag name = false ∧ isAddressFlag name = false) := by
  refine ⟨fun h => ?_, fun h => ?_, fun h => ?_⟩ <;>
    rcases Bool.or_eq_true_iff.mp h with h | h <;> rw [beq_iff_eq.mp h] <;> decide

/-- One more flag leads to the flags so far with that flag at the end. -/
theorem TakesFlags.step (h : TakesFlags b₀ flags b) {flag : FlagName} {value : Option String}
    (hadd : b.addArgument flag value = .ok b') :
    TakesFlags b₀ (flags ++ [(flag.argument, value)]) b' := by
  rcases addArgument_eq_ok hadd with ⟨rfl, rfl⟩ | ⟨text, rfl, hcase⟩
  · exact h.put (Or.inl rfl) rfl
  have hunkept (hfield : hasField flag.argument) : isKept (flag.argument, some text) = false := by
    simp only [isKept, hfield, Option.isNone_some, Bool.not_true, Bool.or_false]
  rcases hcase with ⟨hport, port, hread, _, rfl⟩ | ⟨haddress, rfl⟩ | ⟨hlog, rfl⟩ |
    ⟨hflag, path, hpath, rfl⟩ | ⟨hport, haddress, hlog, hflag, rfl⟩
  · -- The value is the last one for the port, and other fields get nothing from it.
    rcases (kinds_apart _).1 hport with ⟨haddress, hlog⟩
    refine ⟨?_, ?_, ?_, h.timeout, h.capabilities,
      h.arguments.unkept (hunkept (by simp only [hasField, hport, Bool.true_or]))⟩
    · rw [lastGiven?_concat, if_pos hport]
      exact hread
    · rw [lastGiven?_concat_of_not haddress]
      exact h.address
    · rw [lastGiven?_concat_of_not hlog]
      exact h.logFile
  · rcases (kinds_apart _).2.1 haddress with ⟨hport, hlog⟩
    refine ⟨?_, ?_, ?_, h.timeout, h.capabilities, h.arguments.unkept
      (hunkept (by simp only [hasField, haddress, Bool.true_or, Bool.or_true]))⟩
    · rw [lastGiven?_concat_of_not hport]
      exact h.port
    · rw [lastGiven?_concat, if_pos haddress]
      rfl
    · rw [lastGiven?_concat_of_not hlog]
      exact h.logFile
  · rcases (kinds_apart _).2.2 hlog with ⟨hport, haddress⟩
    refine ⟨?_, ?_, ?_, h.timeout, h.capabilities,
      h.arguments.unkept (hunkept (by simp only [hasField, hlog, Bool.or_true]))⟩
    · rw [lastGiven?_concat_of_not hport]
      exact h.port
    · rw [lastGiven?_concat_of_not haddress]
      exact h.address
    · rw [lastGiven?_concat, if_pos hlog]
      rfl
  · refine h.put (Or.inr (by rw [hflag]; decide)) ?_
    rw [keptText, if_pos hflag, hpath]
  · refine h.put (Or.inr ?_) (by rw [keptText, if_neg hflag])
    simp only [hasField, hport, haddress, hlog, Bool.or_self]

/-- A number of flags, one after the other. -/
def addFlags (b : Builder) : List Flag → Except LaunchError Builder
  | [] => .ok b
  | e :: flags => do
    let b ← b.addArgument (.text e.1) e.2
    addFlags b flags

theorem addFlags_singleton {e : Flag} :
    b.addFlags [e] = .ok b' ↔ b.addArgument (.text e.1) e.2 = .ok b' := by
  rw [addFlags, except_bind_eq_ok]
  constructor
  · rintro ⟨b₁, h, hsame⟩
    rw [← Except.ok.inj hsame]
    exact h
  · exact fun h => ⟨b', h, rfl⟩

/-- Flags lead to the flags so far with those flags at the end. -/
theorem TakesFlags.run {more : List Flag} (h : TakesFlags b₀ flags b)
    (hadd : b.addFlags more = .ok b') : TakesFlags b₀ (flags ++ more) b' := by
  induction more generalizing b flags with
  | nil =>
      rw [List.append_nil, ← Except.ok.inj hadd]
      exact h
  | cons e more ih =>
      rcases except_bind_eq_ok.mp hadd with ⟨b₁, hone, hmore⟩
      rw [← List.singleton_append, ← List.append_assoc]
      exact ih (h.step hone) hmore

end Taken

section Refusal

/-- A flag that is not refused: a port is a number that is not negative, and a base path is not
    blank. -/
structure IsAcceptable (e : Flag) : Prop where
  port : isPortFlag e.1 → ∀ text ∈ e.2, ∃ port, Numeral.readInteger text = .ok port ∧ 0 ≤ port
  basePath : e.1 = basePathFlag → ∀ text ∈ e.2, ∃ path, sanitizeBasePath (some text) = .ok path

theorem setPort_eq_ok_iff {b b' : Builder} {port : Int} :
    b.setPort port = .ok b' ↔ 0 ≤ port ∧ b' = { b with port } := by
  refine ⟨setPort_eq_ok, ?_⟩
  rintro ⟨h, rfl⟩
  exact if_neg (Int.not_lt.mpr h)

theorem setTimeout_eq_ok_iff {b b' : Builder} {timeout : Number} :
    b.setTimeout timeout = .ok b' ↔
      timeout.isNotPositive = false ∧ b' = { b with timeout := .number timeout } := by
  refine ⟨setTimeout_eq_ok, ?_⟩
  rintro ⟨h, rfl⟩
  exact if_neg (Bool.eq_false_iff.mp h)

/-- A flag is refused for its own sake, whatever the builder holds. -/
theorem addArgument_isOk_iff {b : Builder} {flag : FlagName} {value : Option String} :
    (∃ b', b.addArgument flag value = .ok b') ↔ IsAcceptable (flag.argument, value) := by
  constructor
  · rintro ⟨b', h⟩
    refine ⟨fun hport text hvalue => ?_, fun hflag text hvalue => ?_⟩
    · cases hvalue
      simp only [addArgument, if_pos hport] at h
      rcases setPortText_eq_ok h with ⟨port, hread, hle, _⟩
      exact ⟨port, hread, hle⟩
    · cases hvalue
      replace hflag : flag.argument = basePathFlag := hflag
      simp only [addArgument, hflag, beq_self_eq_true, if_true] at h
      rcases except_map_eq_ok.mp h with ⟨path, hpath, _⟩
      exact ⟨path, hpath⟩
  · rintro ⟨hport, hbase⟩
    cases value with
    | none => exact ⟨_, rfl⟩
    | some text =>
        simp only [addArgument]
        -- Of the ways a value can go, only those of a port and a base path can refuse it.
        split
        · next h =>
            rcases hport h text rfl with ⟨port, hread, hle⟩
            rw [setPortText, hread]
            exact ⟨_, setPort_eq_ok_iff.mpr ⟨hle, rfl⟩⟩
        · split
          · exact ⟨_, rfl⟩
          · split
            · exact ⟨_, rfl⟩
            · split
              · next h =>
                  rcases hbase (beq_iff_eq.mp h) text rfl with ⟨path, hpath⟩
                  rw [hpath]
                  exact ⟨_, rfl⟩
              · exact ⟨_, rfl⟩

/-- Flags are refused exactly if one of them is, be it one that would not have counted. -/
theorem addFlags_isOk_iff {b : Builder} {flags : List Flag} :
    (∃ b', b.addFlags flags = .ok b') ↔ ∀ e ∈ flags, IsAcceptable e := by
  induction flags generalizing b with
  | nil => exact iff_of_true ⟨b, rfl⟩ (List.forall_mem_nil _)
  | cons e flags ih =>
      rw [List.forall_mem_cons]
      constructor
      · rintro ⟨b', h⟩
        rcases except_bind_eq_ok.mp h with ⟨b₁, hone, hmore⟩
        exact ⟨addArgument_isOk_iff.mp ⟨b₁, hone⟩, ih.mp ⟨b', hmore⟩⟩
      · rintro ⟨hone, hmore⟩
        rcases (@addArgument_isOk_iff b (.text e.1) e.2).mpr hone with ⟨b₁, h₁⟩
        rcases ih.mpr hmore with ⟨b', h'⟩
        exact ⟨b', except_bind_eq_ok.mpr ⟨b₁, h₁, h'⟩⟩

end Refusal

end Builder

end ServerLaunch

import Mathlib.Data.List.DropRight
import ServerLaunch.Proofs.LaunchCommand

/-!
# Base Paths

That a base path is normalised once and for all, and where a handle gets its own from.

Trimming cuts a text until neither end is in the set, and a text with such ends is left alone,
so trimming twice is trimming once. Normalising a base path trims it and ends it with a slash,
which is no blank, so what comes out is left alone as well.

A base path can be told to a server by two flags, and the handle of the server takes one base
path from the table of both: that of the long flag, or else that of the short one. On the
command line both may stand. `Reachable.build_basePath` says exactly when the handle and the
command line agree: unless both flags are in the table, and the value of the short one leads
elsewhere. A long flag that is a switch counts, although it tells the server nothing.

## Main definitions

* `Text.EndsOutside`: Neither end of a text is in a set.
* `IsBasePath`: What is in the table for a base path.
* `TellsBasePath`: The values of a table that tell a server its base path.

## Theorems

* `Text.trim_endsOutside`, `Text.trim_eq_self`: What trimming gives, and what it leaves alone.
* `sanitizeBasePath_eq_ok`: What normalising gives is normal.
* `Table.lookup_of_mem`: What is in a table is found.
* `FlagsWritten.infix_of_mem`: A value stands right behind its flag.
* `Builder.Reachable.build_basePath`: When a handle and its command line have one base path.
-/

namespace ServerLaunch

namespace Text

variable {p : Char → Bool} {cs : List Char}

/-- Neither end of a text is in the set. -/
structure EndsOutside (p : Char → Bool) (cs : List Char) : Prop where
  first : ∀ c ∈ cs.head?, p c = false
  last : ∀ c ∈ cs.getLast?, p c = false

theorem trim_endsOutside (p : Char → Bool) (cs : List Char) : EndsOutside p (trim p cs) := by
  constructor
  · intro c hc
    -- What is left has lost characters at its end only, so it begins as the trimmed start does.
    have hprefix : trim p cs <+: cs.dropWhile p := List.rdropWhile_prefix p _
    rcases hprefix with ⟨tail, htail⟩
    have hfirst : (cs.dropWhile p).head? = some c := by
      rw [← htail, List.head?_append, Option.mem_def.mp hc]
      rfl
    have hnot := List.head?_dropWhile_not p cs
    rw [hfirst] at hnot
    exact hnot
  · intro c hc
    rcases List.getLast?_eq_some_iff.mp hc with ⟨front, hfront⟩
    have hne : trim p cs ≠ [] := by
      rw [hfront]
      exact List.concat_ne_nil c front
    have hnot := List.rdropWhile_last_not p (cs.dropWhile p) hne
    rw [Bool.not_eq_true] at hnot
    have hlast : (trim p cs).getLast hne = c :=
      Option.some.inj ((List.getLast?_eq_some_getLast hne).symm.trans hc)
    rw [← hlast]
    exact hnot

/-- A text whose ends are not in the set is left as it is. -/
theorem trim_eq_self (h : EndsOutside p cs) : trim p cs = cs := by
  have hstart : cs.dropWhile p = cs := by
    rw [List.dropWhile_eq_self_iff]
    intro hlength
    rw [h.first _ (by rw [List.head?_eq_getElem?, Option.mem_def,
      List.getElem?_eq_getElem hlength])]
    exact Bool.false_ne_true
  have hend : cs.rdropWhile p = cs := by
    rw [List.rdropWhile_eq_self_iff]
    intro hne
    rw [h.last _ (List.getLast?_eq_some_getLast hne)]
    exact Bool.false_ne_true
  change (cs.dropWhile p).rdropWhile p = cs
  rw [hstart, hend]

end Text

/-- A base path as a table of flags has it: no blank text, without blanks at its ends, ending
    with a slash, and as it is when it is normalised once more. -/
structure IsBasePath (path : String) : Prop where
  visible : Text.IsBlankText path = false
  first : ∀ c ∈ path.toList.head?, Text.isBlank c = false
  last : path.toList.getLast? = some '/'
  fixed : sanitizeBasePath (some path) = .ok path

/-- A text that begins with no blank and ends with a slash is a base path. -/
theorem IsBasePath.of_ends {path : String}
    (hfirst : ∀ c ∈ path.toList.head?, Text.isBlank c = false)
    (hlast : path.toList.getLast? = some '/') : IsBasePath path := by
  have hends : Text.EndsOutside Text.isBlank path.toList := by
    refine ⟨hfirst, fun c hc => ?_⟩
    rw [hlast] at hc
    rw [← Option.some.inj hc]
    decide
  have htrimmed : Text.trimmed path = path := by
    rw [Text.trimmed, Text.trim_eq_self hends, String.ofList_toList]
  have hmem : '/' ∈ path.toList := List.mem_of_getLast? hlast
  refine ⟨?_, hfirst, hlast, ?_⟩
  · rw [Text.IsBlankText, List.all_eq_false]
    exact ⟨'/', hmem, by decide⟩
  · simp only [sanitizeBasePath, Option.getD_some, htrimmed, hlast, beq_self_eq_true, if_true]
    rw [if_neg]
    rw [List.isEmpty_iff]
    exact List.ne_nil_of_mem hmem

/-- What normalising gives is normal. -/
theorem sanitizeBasePath_eq_ok {given : Option String} {path : String}
    (h : sanitizeBasePath given = .ok path) : IsBasePath path := by
  have hends := Text.trim_endsOutside Text.isBlank (given.getD "").toList
  have hlist : (Text.trimmed (given.getD "")).toList
      = Text.trim Text.isBlank (given.getD "").toList := String.toList_ofList
  simp only [sanitizeBasePath] at h
  rw [← hlist] at hends
  generalize Text.trimmed (given.getD "") = value at h hends
  split at h
  · exact absurd h (by simp only [reduceCtorEq, not_false_eq_true])
  · next hne =>
      split at h
      · next hslash =>
          rw [← Except.ok.inj h]
          exact .of_ends hends.first (beq_iff_eq.mp hslash)
      · -- A slash is put behind the text, which has a first character of its own.
        rw [← Except.ok.inj h]
        have happend : (value ++ "/").toList = value.toList ++ ['/'] := String.toList_append
        refine .of_ends (fun c hc => hends.first c ?_) ?_
        · rcases hcs : value.toList with _ | ⟨d, ds⟩
          · rw [hcs] at hne
            exact absurd rfl hne
          · rw [happend, hcs] at hc
            exact hc
        · rw [happend, List.getLast?_concat]

/-- What is in a table whose names are distinct is found there. -/
theorem Table.lookup_of_mem {α : Type} {table : Table α} {name : String} {a : α}
    (hnodup : (table.map Prod.fst).Nodup) (h : (name, a) ∈ table) :
    table.lookup name = some a := by
  induction table with
  | nil => exact absurd h List.not_mem_nil
  | cons e rest ih =>
      rcases e with ⟨key, b⟩
      rw [List.map_cons, List.nodup_cons] at hnodup
      rcases List.mem_cons.mp h with heq | hrest
      · rw [Prod.mk.injEq] at heq
        rw [heq.1, heq.2, List.lookup_cons_self]
      · have hne : (name == key) = false :=
          beq_eq_false_iff_ne.mpr fun heq => hnodup.1 (List.mem_map.mpr ⟨_, hrest, heq⟩)
        rw [List.lookup_cons, hne]
        exact ih hnodup.2 hrest

/-- A value stands right behind its flag, wherever in the table the two are. -/
theorem FlagsWritten.infix_of_mem {flags : Table String} {words : List String}
    (h : FlagsWritten flags words) {name value : String} (hmem : (name, value) ∈ flags)
    (hname : name ≠ "") (hvalue : value ≠ "") : [name, value] <:+: words := by
  induction h with
  | nil => exact absurd hmem List.not_mem_nil
  | unnamed _ ih =>
      rcases List.mem_cons.mp hmem with heq | hrest
      · exact absurd (Prod.mk.inj heq).1 hname
      · exact ih hrest
  | switch _ _ ih =>
      rcases List.mem_cons.mp hmem with heq | hrest
      · exact absurd (Prod.mk.inj heq).2 hvalue
      · exact (ih hrest).trans (List.suffix_cons _ _).isInfix
  | @valued name' value' flags words _ _ _ ih =>
      rcases List.mem_cons.mp hmem with heq | hrest
      · rw [(Prod.mk.inj heq).1, (Prod.mk.inj heq).2]
        exact (List.prefix_append [name', value'] words).isInfix
      · exact (ih hrest).trans (List.suffix_append [name', value'] words).isInfix

/-- A table of flags tells a server its base path by a value of the flag or of its short form.
    A switch has no value and tells nothing. -/
def TellsBasePath (flags : Table String) (value : String) : Prop :=
  value ≠ "" ∧ ((basePathFlag, value) ∈ flags ∨ (basePathAlias, value) ∈ flags)

namespace Builder

variable {b : Builder} {value : String}

/-- The flag comes first, be it a switch. -/
theorem basePath_of_flag (hnodup : (b.arguments.map Prod.fst).Nodup)
    (h : (basePathFlag, value) ∈ b.arguments) : b.basePath = some value := by
  rw [basePath, Table.lookup_of_mem hnodup h, Option.some_or]

/-- The short form counts where the flag is not in the table. -/
theorem basePath_of_alias (hnodup : (b.arguments.map Prod.fst).Nodup)
    (h : (basePathAlias, value) ∈ b.arguments)
    (hno : ∀ long, (basePathFlag, long) ∉ b.arguments) : b.basePath = some value := by
  have hnone : b.arguments.lookup basePathFlag = none := by
    rw [List.lookup_eq_none_iff]
    rintro ⟨name, long⟩ he
    rw [bne_iff_ne]
    rintro rfl
    exact hno long he
  rw [basePath, hnone, Option.none_or, Table.lookup_of_mem hnodup h]

/-- A handle has the base path of the builder that it was built from. -/
theorem build_basePath_eq {b' : Builder} {w w' : World} {s : Handle}
    (h : build (b, w) = (.ok s, (b', w'))) : s.basePath = b.basePath := by
  rcases build_eq_ok h with ⟨executable, script, last, logger, rfl, _, rfl, _⟩
  rfl

/-- Whatever was done to a builder, and in whatever world it is built, the values that tell the
    server its base path stand on the command line behind their flags, and all of them lead to
    the path of the handle unless both flags are in the table, and the short one has a value
    that leads elsewhere than the other. -/
theorem Reachable.build_basePath {b' : Builder} {w w' : World} {s : Handle} (hb : b.Reachable)
    (h : build (b, w) = (.ok s, (b', w'))) :
    (∃ script address logWords flagWords lastWords,
      LaunchAgreement b b' w.host s script address logWords flagWords lastWords) ∧
      (∀ value, TellsBasePath b.arguments value →
        [basePathFlag, value] <:+: s.command ∨ [basePathAlias, value] <:+: s.command) ∧
      ((∀ value, TellsBasePath b.arguments value → urlPath (some value) = urlPath s.basePath) ↔
        ∀ long short, (basePathFlag, long) ∈ b.arguments → (basePathAlias, short) ∈ b.arguments →
          short ≠ "" → urlPath (some short) = urlPath (some long)) := by
  have hagree := (build_agreement h).1
  have hnodup := hb.nodup_arguments
  refine ⟨hagree, ?_, ?_⟩
  · rcases hagree with ⟨script, address, logWords, flagWords, lastWords, hagree⟩
    have hflags : flagWords <:+: s.command := by
      rw [hagree.command]
      exact List.infix_append _ flagWords lastWords
    rintro value ⟨hvalue, hflag | halias⟩
    · exact Or.inl ((hagree.flagged.infix_of_mem hflag (by decide) hvalue).trans hflags)
    · exact Or.inr ((hagree.flagged.infix_of_mem halias (by decide) hvalue).trans hflags)
  · rw [build_basePath_eq h]
    constructor
    · intro hall long short hlong hshort hne
      rw [← basePath_of_flag hnodup hlong]
      exact hall short ⟨hne, Or.inr hshort⟩
    · rintro hone value ⟨hvalue, hflag | halias⟩
      · rw [basePath_of_flag hnodup hflag]
      · by_cases hlong : ∃ long, (basePathFlag, long) ∈ b.arguments
        · rcases hlong with ⟨long, hlong⟩
          rw [basePath_of_flag hnodup hlong]
          exact hone long value hlong halias hvalue
        · rw [basePath_of_alias hnodup halias fun long hmem => hlong ⟨long, hmem⟩]

/-- A builder with a base path of its configuration, to which the short form is given another:
    the server is told both, and the handle asks under the first. -/
theorem Reachable.build_basePath_twoPaths :
    ∃ b b' w' s, b.Reachable ∧ build (b, World.twoFiles) = (.ok s, (b', w')) ∧
      s.command = ["node", "/main.js", "--port", "4723", "--address", "0.0.0.0",
        "--base-path", "/a/", "-pa", "/b"] ∧
      s.url = "http://127.0.0.1:4723/a/" ∧
      ¬ ∀ value, TellsBasePath b.arguments value → urlPath (some value) = urlPath s.basePath := by
  have hnew : Reachable _ := @Reachable.create (some { basePath := some "/a" })
    (some ⟨[], .null, .given (.logger .journal)⟩) false (some .journal) .twoFiles _ _ rfl
  have hfound := (hnew.call (.executable ⟨.relative, ["node"]⟩) .twoFiles).call
    (.mainScript ⟨.relative, ["main.js"]⟩) .twoFiles
  have hset := hfound.call (.argument (.text "-pa") (some "/b")) .twoFiles
  have hbuild := hset.build_basePath (w := World.twoFiles) rfl
  refine ⟨_, _, _, _, hset, rfl, by decide +kernel, by decide +kernel, fun hall => ?_⟩
  have hsame := hbuild.2.2.mp hall "/a/" "/b" (by decide +kernel) (by decide +kernel) (by decide)
  exact absurd hsame (by decide +kernel)

end Builder

end ServerLaunch

import ServerLaunch.Proofs.BuilderInvariant
import ServerLaunch.Proofs.FlagSetters

/-!
# Slashes around a Base Path

That a server and its handle mean one base path, slashes included, and when they do not.

A base path is normalised twice. On the command line it is trimmed of blanks and given a slash
at its end unless it has one; in the URL the slashes at either end are replaced by one. So the
two differ where the text that was given ends with more than one slash: the server is told all
of them, and the handle asks under one. `urlPath_some` says that this is the only difference.
With the slashes at its end counted once, and one slash in front, the value on the command line
is the path of the URL, whatever characters it has.

Which values can stand on a command line is an invariant of builders. Unlike the port it does
not depend on what a host hands out, so it holds of every builder that can come up.

## Main definitions

* `EndsWithOneSlash`, `EndsWithTwoSlashes`: How a base path ends.
* `withFirstSlash`, `withLastSlash`: A base path whose slashes at one end are one.

## Theorems

* `Text.trim_eq_dropWhile`: The two ends of a text can be trimmed in either order.
* `urlPath_some`: The path of the URL, from the value on the command line.
* `endsWithOneSlash_iff`, `urlPath_eq_withFirstSlash_iff`: When the two agree.
* `sanitizeBasePath_endsWithTwoSlashes`: Which texts end with too many slashes.
* `Builder.Reachable.isBasePath`: What is in the table for a base path is normal.
* `Builder.Reachable.build_pathSlashes`: The slashes on the command line and in the URL.
-/

namespace ServerLaunch

/-- Whichever end of a text is trimmed first, the same is left. -/
theorem Text.trim_eq_dropWhile (p : Char → Bool) (cs : List Char) :
    trim p cs = (cs.rdropWhile p).dropWhile p := by
  change (cs.dropWhile p).rdropWhile p = (cs.rdropWhile p).dropWhile p
  induction cs using List.reverseRecOn with
  | nil => rfl
  | append_singleton cs c ih =>
      rw [List.dropWhile_append]
      by_cases hc : p c
      · rw [List.rdropWhile_concat_pos p cs c hc, ← ih]
        -- The last character goes on either side, whether or not it is reached from the front.
        by_cases hnone : (cs.dropWhile p).isEmpty
        · rw [if_pos hnone, List.dropWhile_cons_of_pos hc, List.isEmpty_iff.mp hnone]
          rfl
        · rw [if_neg hnone, List.rdropWhile_concat_pos p _ c hc]
      · rw [List.rdropWhile_concat_neg p cs c hc, List.dropWhile_append]
        by_cases hnone : (cs.dropWhile p).isEmpty
        · rw [if_pos hnone, List.dropWhile_cons_of_neg hc]
          exact List.rdropWhile_concat_neg p [] c hc
        · rw [if_neg hnone, List.rdropWhile_concat_neg p _ c hc]

/-- The slashes at the end of a base path are one slash. -/
def EndsWithOneSlash (path : String) : Prop :=
  path.toList.rtakeWhile isSlash = ['/']

/-- There is more than one slash at the end of a base path. -/
def EndsWithTwoSlashes (path : String) : Prop :=
  ['/', '/'] <:+ path.toList

/-- A base path with exactly one slash in front; the slashes that it has there are that one. -/
def withFirstSlash (path : String) : String :=
  String.ofList ('/' :: path.toList.dropWhile isSlash)

/-- A base path with exactly one slash at its end; the slashes that it has there are that one. -/
def withLastSlash (path : String) : String :=
  String.ofList (path.toList.rdropWhile isSlash ++ ['/'])

/-- The URL has the base path with its last slashes counted once, and one slash in front. -/
theorem urlPath_some (path : String) :
    urlPath (some path) = withFirstSlash (withLastSlash path) := by
  unfold urlPath withFirstSlash withLastSlash
  rw [Option.getD_some, String.toList_ofList, Text.trim_eq_dropWhile, List.dropWhile_append]
  cases (path.toList.rdropWhile isSlash).dropWhile isSlash with
  | nil => rfl
  | cons c rest => rfl

/-- A base path that ends with a slash ends with one or with more. -/
theorem endsWithOneSlash_iff {path : String} (hlast : path.toList.getLast? = some '/') :
    EndsWithOneSlash path ↔ ¬ EndsWithTwoSlashes path := by
  rcases List.getLast?_eq_some_iff.mp hlast with ⟨front, hfront⟩
  -- Both are said of what comes before the last slash.
  have htwo : EndsWithTwoSlashes path ↔ front.getLast? = some '/' := by
    rw [EndsWithTwoSlashes, hfront, List.getLast?_eq_some_iff]
    constructor
    · rintro ⟨start, hstart⟩
      rw [List.append_cons] at hstart
      exact ⟨start, (List.append_cancel_right hstart).symm⟩
    · rintro ⟨start, rfl⟩
      exact ⟨start, List.append_cons start '/' ['/']⟩
  have hone : EndsWithOneSlash path ↔ front.rtakeWhile isSlash = [] := by
    rw [EndsWithOneSlash, hfront, List.rtakeWhile_concat_pos isSlash front '/' rfl,
      List.append_left_eq_self]
  rw [hone, htwo, List.rtakeWhile_eq_nil_iff]
  cases hlast' : front.getLast? with
  | none =>
      refine iff_of_true (fun hne => absurd (List.getLast?_eq_none_iff.mp hlast') hne) ?_
      exact (Option.some_ne_none '/').symm
  | some c =>
      rcases List.getLast?_eq_some_iff.mp hlast' with ⟨start, rfl⟩
      simp only [List.getLast_append_singleton, isSlash, beq_iff_eq, Option.some.injEq, ne_eq,
        List.append_eq_nil_iff, List.cons_ne_self, and_false, not_false_eq_true, forall_const]

/-- The path of the URL is the base path with one slash in front, if the base path ends with one
    slash; and if it is nothing but slashes, which are one in the URL. -/
theorem urlPath_eq_withFirstSlash_iff {path : String} :
    urlPath (some path) = withFirstSlash path ↔
      EndsWithOneSlash path ∨ ∀ c ∈ path.toList, isSlash c := by
  have hsplit : path.toList.rdropWhile isSlash ++ path.toList.rtakeWhile isSlash = path.toList :=
    List.rdropWhile_append_rtakeWhile
  unfold EndsWithOneSlash
  rw [urlPath_some, withFirstSlash, withFirstSlash, withLastSlash, String.toList_ofList,
    String.ofList_inj, List.cons_inj_right]
  by_cases hnone : ∀ c ∈ path.toList, isSlash c
  · -- Nothing is left of slashes alone on either side.
    rw [List.rdropWhile_eq_nil_iff.mpr hnone, List.dropWhile_eq_nil_iff.mpr hnone]
    exact iff_of_true rfl (Or.inr hnone)
  · have hne : ((path.toList.rdropWhile isSlash).dropWhile isSlash).isEmpty = false := by
      rw [← Text.trim_eq_dropWhile, List.isEmpty_eq_false_iff]
      exact fun hnil => hnone (Text.trim_eq_nil_iff.mp hnil)
    conv_lhs => rhs; rw [← hsplit]
    rw [List.dropWhile_append, List.dropWhile_append, hne, if_neg Bool.false_ne_true,
      if_neg Bool.false_ne_true, List.append_cancel_left_eq, or_iff_left hnone]
    exact eq_comm

/-- Normalising adds a slash only where there is none, so a base path ends with too many slashes
    exactly if the text does that it was made from, trimmed of blanks. -/
theorem sanitizeBasePath_endsWithTwoSlashes {given path : String}
    (h : sanitizeBasePath (some given) = .ok path) :
    EndsWithTwoSlashes path ↔ EndsWithTwoSlashes (Text.trimmed given) := by
  simp only [sanitizeBasePath, Option.getD_some] at h
  generalize Text.trimmed given = value at h ⊢
  split at h
  · cases h
  · split at h
    · rw [Except.ok.inj h]
    · next hslash =>
        -- The slash that was added is the only one, and the text had none at its end.
        have hnone : value.toList.getLast? ≠ some '/' := fun hlast => hslash (beq_iff_eq.mpr hlast)
        rw [← Except.ok.inj h]
        refine iff_of_false ?_ ?_
        · rintro ⟨start, hstart⟩
          rw [String.toList_append, List.append_cons] at hstart
          refine hnone (List.getLast?_eq_some_iff.mpr ⟨start, ?_⟩)
          exact (List.append_cancel_right hstart).symm
        · rintro ⟨start, hstart⟩
          refine hnone (List.getLast?_eq_some_iff.mpr ⟨start ++ ['/'], ?_⟩)
          rw [← hstart, List.append_cons]

namespace Builder

/-- A flag that is taken leaves the values for the base path in the table normal. -/
theorem addArgument_isBasePath {b b' : Builder} {flag : FlagName} {given : Option String}
    (hold : ∀ value, (basePathFlag, value) ∈ b.arguments → value = "" ∨ IsBasePath value)
    (h : b.addArgument flag given = .ok b') {value : String}
    (hmem : (basePathFlag, value) ∈ b'.arguments) : value = "" ∨ IsBasePath value := by
  rcases addArgument_eq_ok h with ⟨_, rfl⟩ | ⟨text, _, hcase⟩
  · exact isBasePath_of_mem_put hold (fun _ => Or.inl rfl) hmem
  · rcases hcase with
      ⟨_, _, _, _, rfl⟩ | ⟨_, rfl⟩ | ⟨_, rfl⟩ | ⟨_, path, hpath, rfl⟩ | ⟨_, _, _, hother, rfl⟩
    · exact hold value hmem
    · exact hold value hmem
    · exact hold value hmem
    · exact isBasePath_of_mem_put hold (fun _ => Or.inr (sanitizeBasePath_eq_ok hpath)) hmem
    · -- Under another name anything may be put in.
      exact isBasePath_of_mem_put hold (fun heq => absurd heq hother) hmem

/-- What is in the table of a builder for the base path is normal, whatever was done to the
    builder and in whatever world. -/
theorem Reachable.isBasePath {b : Builder} (hb : b.Reachable) {value : String}
    (hmem : (basePathFlag, value) ∈ b.arguments) : value = "" ∨ IsBasePath value := by
  induction hb generalizing value with
  | create hcreate =>
      rcases create_eq_ok hcreate with ⟨config, environment, locator, log, hconfig, _⟩
      exact (ofConfig_sound hconfig).basePath value hmem
  | call hb c w ih =>
      rcases c.perform_table _ w with hsame | ⟨flag, given, hadd⟩
      · rw [hsame] at hmem
        exact ih hmem
      · exact addArgument_isBasePath (fun _ => ih) hadd hmem

/-- Whatever was done to a builder, and in whatever world it is built, the base path on the
    command line is the path of the URL, if the slashes at its end are counted once and it is
    given one slash in front. The slashes at the end are one, and can be left as they are,
    exactly if the text that was given for the base path did not end with two; and where there
    are more, the URL still has the value as it is if there is nothing else in it. -/
theorem Reachable.build_pathSlashes {b b' : Builder} {w w' : World} {s : Handle} {value : String}
    (hb : b.Reachable) (hmem : (basePathFlag, value) ∈ b.arguments) (hne : value ≠ "")
    (h : build (b, w) = (.ok s, (b', w'))) :
    [basePathFlag, value] <:+: s.command ∧
      s.url = "http://" ++ connectHost s.address ++ ":" ++ Numeral.intText s.port ++
        urlPath (some value) ∧
      urlPath (some value) = withFirstSlash (withLastSlash value) ∧
      (EndsWithOneSlash value ↔ ¬ EndsWithTwoSlashes value) ∧
      (urlPath (some value) = withFirstSlash value ↔
        EndsWithOneSlash value ∨ ∀ c ∈ value.toList, isSlash c) ∧
      ∀ given, sanitizeBasePath (some given) = .ok value →
        (EndsWithTwoSlashes value ↔ EndsWithTwoSlashes (Text.trimmed given)) := by
  have hnormal : IsBasePath value := (hb.isBasePath hmem).resolve_left hne
  have hpath : s.basePath = some value := by
    rw [build_basePath_eq h, basePath_of_flag hb.nodup_arguments hmem]
  refine ⟨?_, ?_, urlPath_some value, endsWithOneSlash_iff hnormal.last,
    urlPath_eq_withFirstSlash_iff, fun given => sanitizeBasePath_endsWithTwoSlashes⟩
  · rcases (build_agreement h).1 with ⟨script, address, logWords, flagWords, lastWords, hagree⟩
    have hflags : flagWords <:+: s.command := by
      rw [hagree.command]
      exact List.infix_append _ flagWords lastWords
    exact (hagree.flagged.infix_of_mem hmem (by decide) hne).trans hflags
  · rw [Handle.url, hpath, serverUrl]

/-- A builder is given a base path with two slashes at its end: the server is told both, the
    handle asks under one, and neither half of the agreement holds. -/
theorem Reachable.build_pathSlashes_doubled :
    ∃ b b' w' s, b.Reachable ∧ (basePathFlag, "//wd//") ∈ b.arguments ∧
      build (b, World.twoFiles) = (.ok s, (b', w')) ∧
      s.command = ["node", "/main.js", "--port", "4723", "--address", "0.0.0.0",
        "--base-path", "//wd//"] ∧
      s.url = "http://127.0.0.1:4723/wd/" ∧
      ¬ EndsWithOneSlash "//wd//" ∧ urlPath (some "//wd//") ≠ withFirstSlash "//wd//" := by
  have hnew : Reachable _ := @Reachable.create (some {})
    (some ⟨[], .null, .given (.logger .journal)⟩) false (some .journal) .twoFiles _ _ rfl
  have hfound := (hnew.call (.executable ⟨.relative, ["node"]⟩) .twoFiles).call
    (.mainScript ⟨.relative, ["main.js"]⟩) .twoFiles
  have hset := hfound.call (.argument (.general .basePath) (some "//wd// ")) .twoFiles
  have hbuild := @Reachable.build_pathSlashes _ _ .twoFiles _ _ "//wd//" hset
    (by decide +kernel) (by decide) rfl
  have htwo : EndsWithTwoSlashes "//wd//" := ⟨"//wd".toList, by decide⟩
  have hone := mt hbuild.2.2.2.1.mp (not_not_intro htwo)
  refine ⟨_, _, _, _, hset, by decide +kernel, rfl, by decide +kernel, by decide +kernel, hone,
    fun heq => ?_⟩
  rcases hbuild.2.2.2.2.1.mp heq with hone' | hall
  · exact hone hone'
  · exact absurd (hall 'w' (by decide)) (by decide)

end Builder

end ServerLaunch

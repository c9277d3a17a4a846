import ServerLaunch.Proofs.FlagSetters
import ServerLaunch.Server.Handle

/-!
# Canonical URLs

That the URL of a server has one form, however its parts were written.

The path of the URL is all that is left of a base path when the slashes at its ends are taken
away, put between two slashes of its own. So two base paths lead to one URL as soon as they are
the same without these slashes, and that is how each of the variants is dealt with: a base path
with more slashes around it, the path of the URL itself, and the form of the base path on the
command line, which differs from the text that was given by a slash at its end.

The host is normalised as well. `IsClientHost` describes what clients can connect to; every
host of a URL is of this kind, and hosts of this kind are left alone. A host that contains
colons is told from what follows by its brackets. An address that was given with an opening
bracket is taken at its word, so that only the brackets that are put on are sure to be closed.

## Main definitions

* `IsUrlPath`: The form of the path of a URL.
* `IsClientHost`: The hosts that clients connect to.

## Theorems

* `Text.trim_padded`: What is put around a text is trimmed away with what was there.
* `urlPath_congr`: What the path of the URL depends on.
* `connectHost_eq_self`: A host that clients connect to is left alone.
* `Handle.url_canonical`: The URL of a handle, and its variants.
-/

namespace ServerLaunch

/-- Whatever is put around a text is trimmed away with what was there. -/
theorem Text.trim_padded {p : Char → Bool} {front cs back : List Char}
    (hfront : ∀ c ∈ front, p c) (hback : ∀ c ∈ back, p c) :
    trim p (front ++ (cs ++ back)) = trim p cs := by
  rcases exists_trim p cs with ⟨before, after, hsplit, hbefore, hafter⟩
  by_cases hnone : trim p cs = []
  · have hall : ∀ c ∈ cs, p c := trim_eq_nil_iff.mp hnone
    rw [hnone, trim_eq_nil_iff]
    exact List.forall_mem_append.mpr ⟨hfront, List.forall_mem_append.mpr ⟨hall, hback⟩⟩
  · have hlong : front ++ (cs ++ back) = (front ++ before) ++ (trim p cs ++ (after ++ back)) := by
      conv_lhs => rw [hsplit]
      simp only [List.append_assoc]
    rw [hlong]
    exact trim_append (List.forall_mem_append.mpr ⟨hfront, hbefore⟩)
      (List.forall_mem_append.mpr ⟨hafter, hback⟩) hnone (trim_endsOutside p cs)

section Path

/-! ## The path -/

/-- A single slash, or a text between two slashes that neither begins nor ends with one. -/
def IsUrlPath (path : String) : Prop :=
  path = "/" ∨ ∃ inner, path = "/" ++ inner ++ "/" ∧ inner ≠ "" ∧
    inner.toList.head? ≠ some '/' ∧ inner.toList.getLast? ≠ some '/'

/-- The path of the URL depends on nothing but what is between the slashes at the ends. -/
theorem urlPath_congr {given given' : Option String}
    (h : Text.trim isSlash (given.getD "").toList = Text.trim isSlash (given'.getD "").toList) :
    urlPath given = urlPath given' := by
  unfold urlPath
  rw [h]

/-- The path of the URL, as characters: what is between the slashes, if anything, between two
    slashes. -/
theorem toList_urlPath (given : Option String) :
    let inner := Text.trim isSlash (given.getD "").toList
    (inner = [] ∧ (urlPath given).toList = ['/']) ∨
      inner ≠ [] ∧ (urlPath given).toList = ['/'] ++ (inner ++ ['/']) := by
  unfold urlPath
  cases Text.trim isSlash (given.getD "").toList with
  | nil => exact Or.inl ⟨rfl, rfl⟩
  | cons c rest => exact Or.inr ⟨List.cons_ne_nil c rest, String.toList_ofList⟩

theorem isSlash_of_mem {c : Char} (h : c ∈ ['/']) : isSlash c := by
  rw [List.mem_singleton.mp h]
  rfl

theorem urlPath_isUrlPath (given : Option String) : IsUrlPath (urlPath given) := by
  have hends := Text.trim_endsOutside isSlash (given.getD "").toList
  rcases toList_urlPath given with ⟨_, hpath⟩ | ⟨hne, hpath⟩
  · exact Or.inl (String.toList_inj.mp hpath)
  · generalize Text.trim isSlash (given.getD "").toList = inner at hends hne hpath
    refine Or.inr ⟨String.ofList inner, ?_, ?_, ?_, ?_⟩
    · rw [← String.toList_inj, hpath, String.toList_append, String.toList_append,
        @String.toList_ofList inner, List.append_assoc]
      rfl
    · rw [ne_eq, ← String.toList_inj, String.toList_ofList]
      exact hne
    -- A slash at either end would have been trimmed.
    · rw [String.toList_ofList]
      exact fun hfirst => absurd (hends.first '/' hfirst) Bool.noConfusion
    · rw [String.toList_ofList]
      exact fun hlast => absurd (hends.last '/' hlast) Bool.noConfusion

/-- Slashes around a base path make no difference to the URL. -/
theorem urlPath_padded {front back : String} (hfront : ∀ c ∈ front.toList, isSlash c)
    (hback : ∀ c ∈ back.toList, isSlash c) (given : Option String) :
    urlPath (some (front ++ given.getD "" ++ back)) = urlPath given := by
  refine urlPath_congr ?_
  rw [Option.getD_some, String.toList_append, String.toList_append, List.append_assoc]
  exact Text.trim_padded hfront hback

/-- The path of the URL is itself a base path that leads to it. -/
theorem urlPath_urlPath (given : Option String) :
    urlPath (some (urlPath given)) = urlPath given := by
  refine urlPath_congr ?_
  rw [Option.getD_some]
  rcases toList_urlPath given with ⟨hnone, hpath⟩ | ⟨_, hpath⟩
  · rw [hnone, hpath]
    rfl
  · rw [hpath, Text.trim_padded (fun _ => isSlash_of_mem) fun _ => isSlash_of_mem]
    exact Text.trim_eq_self (Text.trim_endsOutside isSlash _)

/-- A base path without blanks at its ends is normal, or it is with one more slash. -/
theorem sanitizeBasePath_of_endsOutside {given : String} (hne : given ≠ "")
    (hends : Text.EndsOutside Text.isBlank given.toList) :
    sanitizeBasePath (some given) = .ok given ∨
      sanitizeBasePath (some given) = .ok (given ++ "/") := by
  have htrimmed : Text.trimmed given = given := by
    rw [Text.trimmed, Text.trim_eq_self hends, String.ofList_toList]
  have hsome : ¬ given.toList.isEmpty := by
    rwa [List.isEmpty_iff, ← String.toList_empty, String.toList_inj]
  unfold sanitizeBasePath
  simp only [Option.getD_some, htrimmed]
  rw [if_neg hsome]
  by_cases hslash : given.toList.getLast? == some '/'
  · exact Or.inl (if_pos hslash)
  · exact Or.inr (if_neg hslash)

/-- What the command line has for a base path leads to the URL that the base path leads to. -/
theorem urlPath_sanitizeBasePath {given : String} (hne : given ≠ "")
    (hends : Text.EndsOutside Text.isBlank given.toList) :
    ∃ clean, sanitizeBasePath (some given) = .ok clean ∧
      urlPath (some clean) = urlPath (some given) := by
  rcases sanitizeBasePath_of_endsOutside hne hends with hclean | hclean
  · exact ⟨given, hclean, rfl⟩
  · refine ⟨given ++ "/", hclean, ?_⟩
    have hfront : ∀ c ∈ "".toList, isSlash c := List.forall_mem_nil _
    have hback : ∀ c ∈ "/".toList, isSlash c := fun _ => isSlash_of_mem
    have hpadded := urlPath_padded hfront hback (some given)
    rwa [Option.getD_some, String.empty_append] at hpadded

end Path

section Host

/-! ## The host -/

/-- A host that clients can connect to: none that stands for all addresses of a computer, and
    with a bracket in front if it contains a colon. -/
structure IsClientHost (host : String) : Prop where
  ne_four : host ≠ "0.0.0.0"
  ne_six : host ≠ "::"
  bracketed : ':' ∈ host.toList → host.toList.head? = some '['

/-- A host that clients can connect to is left alone. -/
theorem connectHost_eq_self {host : String} (h : IsClientHost host) : connectHost host = host := by
  have hfour : ¬ (host == broadcastAddress4) := fun heq => h.ne_four (beq_iff_eq.mp heq)
  have hsix : ¬ (host == broadcastAddress6) := fun heq => h.ne_six (beq_iff_eq.mp heq)
  unfold connectHost
  rw [if_neg hfour, if_neg hsix, if_neg]
  rw [Bool.and_eq_true, List.contains_iff_mem, bne_iff_ne]
  exact fun ⟨hcolon, hbare⟩ => hbare (h.bracketed hcolon)

/-- The host for an address is one of four: that of the computer itself in either form, the
    address in brackets, or the address as it is. -/
theorem connectHost_cases (address : String) :
    connectHost address = "127.0.0.1" ∨ connectHost address = "[::1]" ∨
      connectHost address = "[" ++ address ++ "]" ∨
      (connectHost address = address ∧ IsClientHost address) := by
  unfold connectHost
  by_cases hfour : address == broadcastAddress4
  · exact Or.inl (if_pos hfour)
  rw [if_neg hfour]
  by_cases hsix : address == broadcastAddress6
  · exact Or.inr (Or.inl (if_pos hsix))
  rw [if_neg hsix]
  by_cases hbare : address.toList.contains ':' && address.toList.head? != some '['
  · exact Or.inr (Or.inr (Or.inl (if_pos hbare)))
  · refine Or.inr (Or.inr (Or.inr ⟨if_neg hbare, fun heq => hfour (beq_iff_eq.mpr heq),
      fun heq => hsix (beq_iff_eq.mpr heq), fun hcolon => ?_⟩))
    rw [Bool.and_eq_true, List.contains_iff_mem, bne_iff_ne] at hbare
    exact Decidable.of_not_not fun hfirst => hbare ⟨hcolon, hfirst⟩

/-- An address in brackets, as characters. -/
theorem toList_bracketed (address : String) :
    ("[" ++ address ++ "]").toList = ['['] ++ (address.toList ++ [']']) := by
  rw [String.toList_append, String.toList_append, List.append_assoc]
  rfl

theorem connectHost_isClientHost (address : String) : IsClientHost (connectHost address) := by
  rcases connectHost_cases address with h | h | h | ⟨h, hhost⟩
  · rw [h]
    exact ⟨by decide, by decide, fun hcolon => absurd hcolon (by decide)⟩
  · rw [h]
    exact ⟨by decide, by decide, fun _ => rfl⟩
  · -- The two addresses that stand for all begin with another character than a bracket.
    have hfirst : (connectHost address).toList.head? = some '[' := by
      rw [h, toList_bracketed]
      rfl
    refine ⟨fun heq => ?_, fun heq => ?_, fun _ => hfirst⟩
    · rw [heq] at hfirst
      exact absurd hfirst (by decide)
    · rw [heq] at hfirst
      exact absurd hfirst (by decide)
  · rwa [h]

/-- The bracket in front of a host is closed at its end, unless it is that of the address. -/
theorem connectHost_closed {address : String} (hcolon : ':' ∈ (connectHost address).toList) :
    (connectHost address).toList.getLast? = some ']' ∨ connectHost address = address := by
  rcases connectHost_cases address with h | h | h | ⟨h, _⟩
  · rw [h] at hcolon
    exact absurd hcolon (by decide)
  · rw [h]
    exact Or.inl rfl
  · rw [h, toList_bracketed, ← List.append_assoc]
    exact Or.inl List.getLast?_concat
  · exact Or.inr h

end Host

namespace Handle

/-- The URL of a handle has one form, whatever its address, its port and its base path are; a
    base path that is not there counts as the empty one.

    * It is put together from the host for the address, the port in decimal, and a path that is
      a single slash or a text between two.
    * Slashes around the base path make no difference to it, and neither does it make one
      whether the base path is replaced by the path of the URL or, if it is not empty and has
      no blanks at its ends, by what the command line has for it.
    * The host is none of the two that stand for all addresses, is left alone when it is mapped
      once more, and has a bracket in front if it contains a colon. If that bracket was not
      there before, there is one at the end, too. -/
theorem url_canonical (h : Handle) :
    (∃ path, h.url = "http://" ++ connectHost h.address ++ ":" ++ Numeral.intText h.port ++ path ∧
      IsUrlPath path ∧ ({ h with basePath := some path } : Handle).url = h.url) ∧
    (∀ front back : String, (∀ c ∈ front.toList, c = '/') → (∀ c ∈ back.toList, c = '/') →
      ({ h with basePath := some (front ++ h.basePath.getD "" ++ back) } : Handle).url = h.url) ∧
    (∀ given, h.basePath = some given → given ≠ "" → Text.EndsOutside Text.isBlank given.toList →
      ∃ clean, sanitizeBasePath (some given) = .ok clean ∧
        ({ h with basePath := some clean } : Handle).url = h.url) ∧
    connectHost (connectHost h.address) = connectHost h.address ∧
    connectHost h.address ≠ "0.0.0.0" ∧ connectHost h.address ≠ "::" ∧
    (':' ∈ (connectHost h.address).toList → (connectHost h.address).toList.head? = some '[' ∧
      ((connectHost h.address).toList.getLast? = some ']' ∨
        connectHost h.address = h.address)) := by
  -- Handles that differ in their base path alone have the same URL once its path is the same.
  have hurl {path : Option String} (hpath : urlPath path = urlPath h.basePath) :
      ({ h with basePath := path } : Handle).url = h.url := by
    simp only [url, serverUrl, hpath]
  have hhost := connectHost_isClientHost h.address
  refine ⟨⟨urlPath h.basePath, rfl, urlPath_isUrlPath _, hurl (urlPath_urlPath _)⟩, ?_, ?_,
    connectHost_eq_self hhost, hhost.ne_four, hhost.ne_six, fun hcolon =>
    ⟨hhost.bracketed hcolon, connectHost_closed hcolon⟩⟩
  · intro front back hfront hback
    exact hurl (urlPath_padded (fun c hc => beq_iff_eq.mpr (hfront c hc))
      (fun c hc => beq_iff_eq.mpr (hback c hc)) h.basePath)
  · intro given hgiven hne hends
    rcases urlPath_sanitizeBasePath hne hends with ⟨clean, hclean, hpath⟩
    exact ⟨clean, hclean, hurl (by rw [hpath, hgiven])⟩

/-- A server on all addresses under a base path with slashes around it and inside. -/
theorem url_canonical_slashes :
    let h : Handle := { (default : Handle) with
      address := "::", port := 4723, basePath := some "//wd//hub" }
    h.url = "http://[::1]:4723/wd//hub/" ∧
      ({ h with basePath := some ("/" ++ "//wd//hub" ++ "//") } : Handle).url = h.url ∧
      (∃ clean, sanitizeBasePath (some "//wd//hub") = .ok clean ∧
        ({ h with basePath := some clean } : Handle).url = h.url) ∧
      (connectHost "::").toList.head? = some '[' := by
  intro h
  have hcanonical := url_canonical h
  refine ⟨by decide +kernel, hcanonical.2.1 "/" "//" (by simp) (by simp),
    hcanonical.2.2.1 "//wd//hub" rfl (by decide) ⟨by simp; decide, by simp; decide⟩,
    (hcanonical.2.2.2.2.2.2 (by decide)).1⟩

end Handle

end ServerLaunch

import ServerLaunch.Proofs.ConfigSearch
import ServerLaunch.Proofs.Paths

/-!
# The Nearest Configuration

Which configuration a search finds, said without a search.

The directories on the way up are the beginnings of the names that lead to the start, and the
deepest of them that has a configuration is the nearest. `Host.Nearest` says this of the files
alone: what a directory has, and that nothing below has anything. It does not speak of an order in
which directories are looked at, nor of files that are passed over.

A search finds the nearest configuration if the files of projects are what one may expect of files
that belong to others: missing, closed to the reader, no TOML, or TOML with a table of tools. There
are documents that are all of this and still stop a search, since they hold a numeral of very many
digits or nest very deep. `Opened.IsLegible` sets these apart. And a directory may be closed, or not
take names as long as those that are looked for, and then the look itself stops the search;
`Host.Answers` sets apart the directories that are looked at without such trouble. A search that
comes to a file or a directory of that sort fails, and any other finds what is nearest, whatever
there is further up or elsewhere.

## Main definitions

* `Opened.IsFair`, `Opened.IsLegible`: What is expected of the file of a project.
* `Host.Answers`: What is expected of a directory.
* `Host.Configures`: The configuration of a directory.
* `Host.Reached`: A directory on the way up with nothing below it.
* `Host.Nearest`: The nearest configuration.
* `Host.LooksLike`: Two hosts with the same files where a search looks.

## Theorems

* `mem_wayUp_iff`, `wayUp_split`: The directories on the way up, and their order.
* `Host.Nearest.unique`, `Host.exists_nearest`: There is one nearest configuration, or none.
* `Host.nearest_of_searchEnd`: What a search finds is nearest.
* `Host.searchEnd_eq_ok_iff`: When a search finds it.
* `findConfig_nearest`: The same of a search with its notes, on all hosts that look the same.
* `findConfig_nearest_layered`: A search that passes over two files on its way to the root.
-/

namespace ServerLaunch

open Act World

section Ways

/-! ## The way up -/

variable {α : Type}

/-- A list and its proper beginnings are its beginnings. -/
theorem mem_beginnings_iff {names begun : List α} :
    begun ∈ names :: Path.beginnings names ↔ begun <+: names := by
  induction names generalizing begun with
  | nil =>
      rw [Path.beginnings, List.mem_singleton, List.prefix_nil]
  | cons name names ih =>
      have hsplit : (name :: names) :: Path.beginnings (name :: names)
          = (names :: Path.beginnings names).map (name :: ·) ++ [[]] := rfl
      rw [hsplit, List.mem_append, List.mem_map, List.mem_singleton, List.prefix_cons_iff, or_comm]
      simp only [ih]
      refine or_congr Iff.rfl ⟨?_, ?_⟩
      · rintro ⟨rest, hrest, rfl⟩
        exact ⟨rest, rfl, hrest⟩
      · rintro ⟨rest, rfl, hrest⟩
        exact ⟨rest, hrest, rfl⟩

/-- The longest beginning comes first. -/
theorem pairwise_beginnings (names : List α) :
    (names :: Path.beginnings names).Pairwise fun longer shorter =>
      shorter.length < longer.length := by
  induction names with
  | nil => exact List.pairwise_singleton _ _
  | cons name names ih =>
      have hsplit : (name :: names) :: Path.beginnings (name :: names)
          = (names :: Path.beginnings names).map (name :: ·) ++ [[]] := rfl
      -- All beginnings but the empty one start with the same name, and the empty one is the last.
      rw [hsplit, List.pairwise_append, List.pairwise_map]
      refine ⟨ih.imp fun h => Nat.succ_lt_succ h, List.pairwise_singleton _ _, ?_⟩
      intro longer hlonger shorter hshorter
      rcases List.mem_map.mp hlonger with ⟨rest, _, rfl⟩
      rw [List.mem_singleton.mp hshorter]
      exact Nat.succ_pos _

variable {start : Option String} {cwd : Path}

theorem wayUp_eq (start : Option String) (cwd : Path) :
    wayUp start cwd = ((searchStart start cwd).names ::
      Path.beginnings (searchStart start cwd).names).map fun names =>
        ⟨(searchStart start cwd).root, names⟩ := rfl

/-- A search looks at the directories that the beginnings of its start lead to. -/
theorem mem_wayUp_iff {directory : Path} :
    directory ∈ wayUp start cwd ↔ ∃ names, names <+: (searchStart start cwd).names ∧
      directory = ⟨(searchStart start cwd).root, names⟩ := by
  rw [wayUp_eq, List.mem_map]
  simp only [mem_beginnings_iff, eq_comm]

/-- It looks at the deeper ones before. -/
theorem wayUp_split {before after : List Path} {directory : Path}
    (h : wayUp start cwd = before ++ directory :: after) :
    (∀ d ∈ before, directory.names.length < d.names.length) ∧
      ∀ d ∈ after, d.names.length < directory.names.length := by
  have hpairs : (wayUp start cwd).Pairwise fun deeper higher =>
      higher.names.length < deeper.names.length := by
    rw [wayUp_eq, List.pairwise_map]
    exact pairwise_beginnings _
  rw [h, List.pairwise_append, List.pairwise_cons] at hpairs
  rcases hpairs with ⟨_, ⟨hafter, _⟩, hbefore⟩
  exact ⟨fun d hd => hbefore d hd directory List.mem_cons_self, hafter⟩

/-- So whatever is deeper was looked at before. -/
theorem mem_before_of_deeper {before after : List Path} {directory deeper : Path}
    (h : wayUp start cwd = before ++ directory :: after) (hmem : deeper ∈ wayUp start cwd)
    (hdeeper : directory.names.length < deeper.names.length) : deeper ∈ before := by
  rw [h, List.mem_append, List.mem_cons] at hmem
  rcases hmem with hbefore | rfl | hafter
  · exact hbefore
  · exact absurd hdeeper (Nat.lt_irrefl _)
  · exact absurd ((wayUp_split h).2 deeper hafter) (Nat.lt_asymm hdeeper)

end Ways

namespace Opened

variable {opened : Opened} {e : Failure}

/-- The file of a project is missing or closed to the reader, or it has a text; and the tools of a
    document, if there are any, are a table. -/
def IsFair (opened : Opened) : Prop :=
  ∀ bs, opened = .content bs → ∃ text, Utf8.decode? bs = some text ∧
    ∀ project tools, Toml.parse text = .ok project →
      Entries.getText? project "tool" = some tools → ∃ es, tools = .dict es

/-- The text of a file, if there is one, is a document unless it is no TOML: its numerals are not
    too long, and it does not nest too deep. -/
def IsLegible (opened : Opened) : Prop :=
  ∀ bs text fault, opened = .content bs → Utf8.decode? bs = some text →
    Toml.parse text = .error fault → fault = .malformed

theorem Trips.not_isLegible (h : opened.Trips e) (hfair : opened.IsFair) : ¬ opened.IsLegible := by
  intro hlegible
  cases h with
  | octets hdecode =>
      rcases hfair _ rfl with ⟨text, htext, _⟩
      cases hdecode.symm.trans htext
  | numeral hdecode hparse => cases hlegible _ _ _ rfl hdecode hparse
  | nesting hdecode hparse => cases hlegible _ _ _ rfl hdecode hparse
  | tools hdecode hparse htools hkind =>
      rcases hfair _ rfl with ⟨text, htext, htable⟩
      cases hdecode.symm.trans htext
      rcases htable _ _ hparse htools with ⟨es, rfl⟩
      cases hkind

theorem exists_trips (h : ¬ opened.IsLegible) : ∃ e, opened.Trips e := by
  unfold IsLegible at h
  push Not at h
  rcases h with ⟨bs, text, fault, rfl, hdecode, hparse, hfault⟩
  cases fault with
  | malformed => exact absurd rfl hfault
  | longNumeral digits => exact ⟨_, .numeral hdecode hparse⟩
  | tooDeep => exact ⟨_, .nesting hdecode hparse⟩

end Opened

namespace Host

/-- The configuration of a directory: the file of its own, or else that of a project whose tools
    include the launcher. -/
inductive Configures (h : Host) (directory : Path) : Path → Prop
  | own (hown : h.isThere (ownConfig directory)) : Configures h directory (ownConfig directory)
  | shared {bs : List UInt8} {text : String} {project tools : Entries}
      (hown : h.isThere (ownConfig directory) = false)
      (hread : h.reading (projectFile directory) = .content bs)
      (hdecode : Utf8.decode? bs = some text) (hparse : Toml.parse text = .ok project)
      (htools : Entries.getText? project "tool" = some (.dict tools))
      (hhas : Entries.has tools (.text toolName)) : Configures h directory (projectFile directory)

/-- A look at a directory is answered: its two files are looked at without trouble, the second one
    if the first is not there, and then that is legible. -/
def Answers (h : Host) (directory : Path) : Prop :=
  ∃ found, h.look (ownConfig directory) = .ok found ∧ (found = false →
    (∃ found', h.look (projectFile directory) = .ok found') ∧
      (h.reading (projectFile directory)).IsLegible)

/-- The directory of these names is on the way up from a start, and none below it on the way has a
    configuration. -/
def Reached (h : Host) (start : Path) (names : List String) : Prop :=
  names <+: h.locate start ∧ ∀ below, below <+: h.locate start → names.length < below.length →
    ∀ file, ¬ h.Configures ⟨start.root, below⟩ file

/-- The configuration of the deepest directory that has one, on the way from a start up to the
    root. -/
inductive Nearest (h : Host) (start : Path) : Option Path → Prop
  | found {names : List String} {file : Path} (hreached : h.Reached start names)
      (hfile : h.Configures ⟨start.root, names⟩ file) : Nearest h start (some file)
  | none (hnone : ∀ names, names <+: h.locate start →
      ∀ file, ¬ h.Configures ⟨start.root, names⟩ file) : Nearest h start none

variable {h : Host} {directory file file' start : Path} {r r' : Option Path}

theorem Configures.unique (hfile : h.Configures directory file)
    (hfile' : h.Configures directory file') : file = file' := by
  cases hfile with
  | own hown =>
      cases hfile' with
      | own => rfl
      | shared hown' => cases hown.symm.trans hown'
  | shared hown =>
      cases hfile' with
      | own hown' => cases hown.symm.trans hown'
      | shared => rfl

/-- There is only one nearest configuration. -/
theorem Nearest.unique (hr : h.Nearest start r) (hr' : h.Nearest start r') : r = r' := by
  cases hr with
  | none hnone =>
      cases hr' with
      | none => rfl
      | found hreached hfile => exact absurd hfile (hnone _ hreached.1 _)
  | found hreached hfile =>
      cases hr' with
      | none hnone => exact absurd hfile (hnone _ hreached.1 _)
      | found hreached' hfile' =>
          -- Neither directory is below the other, and both are on one way.
          have hle := Nat.le_of_not_lt fun hlt => hreached.2 _ hreached'.1 hlt _ hfile'
          have hge := Nat.le_of_not_lt fun hlt => hreached'.2 _ hreached.1 hlt _ hfile
          have hnames := List.prefix_of_prefix_length_le hreached.1 hreached'.1 hge
          cases hnames.eq_of_length (Nat.le_antisymm hge hle)
          exact congrArg some (hfile.unique hfile')

/-- A directory that does not answer makes a search fail. -/
theorem exists_trips (h : Host) {directory : Path} (hsilent : ¬ h.Answers directory) :
    ∃ e, h.Trips directory e := by
  cases hown : h.look (ownConfig directory) with
  | error fault => exact ⟨_, .own hown⟩
  | ok found =>
      cases found with
      | true => exact absurd ⟨true, hown, fun heq => nomatch heq⟩ hsilent
      | false =>
          cases hproject : h.look (projectFile directory) with
          | error fault => exact ⟨_, .project hown hproject⟩
          | ok found' =>
              have hillegible : ¬ (h.reading (projectFile directory)).IsLegible := fun hlegible =>
                hsilent ⟨false, hown, fun _ => ⟨⟨found', hproject⟩, hlegible⟩⟩
              rcases Opened.exists_trips hillegible with ⟨e, htrips⟩
              exact ⟨e, .contents hown htrips⟩

/-- Where a project is fair, nothing else does. -/
theorem Trips.not_answers {e : Failure} (htrips : h.Trips directory e)
    (hfair : (h.reading (projectFile directory)).IsFair) : ¬ h.Answers directory := by
  rintro ⟨found, hlook, hrest⟩
  cases htrips with
  | own hown => cases hown.symm.trans hlook
  | project hown hproject =>
      cases hown.symm.trans hlook
      rcases (hrest rfl).1 with ⟨found', hlook'⟩
      cases hproject.symm.trans hlook'
  | contents hown htrips =>
      cases hown.symm.trans hlook
      exact htrips.not_isLegible hfair (hrest rfl).2

/-- A directory in which no search ends has no configuration. -/
theorem not_configures_of_end? (hend : h.end? directory = none) (file : Path) :
    ¬ h.Configures directory file := by
  intro hfile
  -- No look is refused here, so a search sees what is there.
  have hown : h.look (ownConfig directory) = .ok false := by
    rcases hlook : h.look (ownConfig directory) with fault | _ | _
    · cases hend.symm.trans (end?_eq_error_iff.mpr (.own hlook))
    · rfl
    · cases hend.symm.trans (end?_eq_ok_iff.mpr (Or.inl ⟨rfl, hlook⟩))
  cases hfile with
  | own hthere => cases (isThere_of_look hown).symm.trans hthere
  | @shared bs text project tools _ hread hdecode hparse htools hhas =>
      have hsection : hasLauncherSection project = .ok true := by
        unfold hasLauncherSection
        rw [htools, Option.getD_some]
        exact congrArg Except.ok hhas
      cases hend.symm.trans (end?_eq_ok_iff.mpr
        (Or.inr ⟨rfl, hown, bs, text, project, hread, hdecode, hparse, hsection⟩))

/-- Where a search ends with a file, the file is the configuration, if the project is fair. -/
theorem configures_of_end? (hfair : (h.reading (projectFile directory)).IsFair)
    (hend : h.end? directory = some (.ok file)) : h.Configures directory file := by
  rcases end?_eq_ok_iff.mp hend with ⟨rfl, hown⟩ |
    ⟨rfl, hown, bs, text, project, hread, hdecode, hparse, hsection⟩
  · exact .own (isThere_of_look hown)
  · rcases hfair bs hread with ⟨text', hdecode', htable⟩
    cases hdecode.symm.trans hdecode'
    unfold hasLauncherSection at hsection
    cases htools : Entries.getText? project "tool" with
    | none =>
        rw [htools] at hsection
        cases hsection
    | some tools =>
        -- A text or a list of tools might include the launcher as well, but fair tools are a table.
        rcases htable project tools hparse htools with ⟨es, rfl⟩
        rw [htools] at hsection
        exact .shared (isThere_of_look hown) hread hdecode hparse htools (Except.ok.inj hsection)

section Search

/-! ## What a search finds -/

variable {name? : Option String} {cwd : Path} {before after : List Path}

/-- The directory that comes after others without a configuration is reached. -/
theorem reached_of_split
    (hway : h.locate (searchStart name? cwd) = (searchStart name? cwd).names)
    (hsplit : wayUp name? cwd = before ++ directory :: after)
    (hbefore : ∀ d ∈ before, ∀ file, ¬ h.Configures d file) :
    ∃ names, directory = ⟨(searchStart name? cwd).root, names⟩ ∧
      h.Reached (searchStart name? cwd) names := by
  have hmem : directory ∈ wayUp name? cwd := by
    rw [hsplit]
    exact List.mem_append_right before List.mem_cons_self
  rcases mem_wayUp_iff.mp hmem with ⟨names, hnames, rfl⟩
  refine ⟨names, rfl, hway ▸ hnames, fun below hbelow hdeeper => ?_⟩
  refine hbefore _ (mem_before_of_deeper hsplit (mem_wayUp_iff.mpr ⟨below, ?_, rfl⟩) hdeeper)
  exact hway ▸ hbelow

theorem exists_nearest (hway : h.locate (searchStart name? cwd) = (searchStart name? cwd).names) :
    ∃ r, h.Nearest (searchStart name? cwd) r := by
  classical
  -- The first directory that has a configuration is the deepest.
  cases hfind : (wayUp name? cwd).find? fun d => decide (∃ file, h.Configures d file) with
  | none =>
      rw [List.find?_eq_none] at hfind
      refine ⟨none, .none fun names hnames file hfile => ?_⟩
      rw [hway] at hnames
      exact hfind _ (mem_wayUp_iff.mpr ⟨names, hnames, rfl⟩) (decide_eq_true ⟨file, hfile⟩)
  | some directory =>
      rcases List.find?_eq_some_iff_append.mp hfind with ⟨hfile, before, after, hsplit, hbefore⟩
      rcases of_decide_eq_true hfile with ⟨file, hfile⟩
      have hbare : ∀ d ∈ before, ∀ file', ¬ h.Configures d file' := by
        intro d hd file' hfile'
        have hnot := hbefore d hd
        rw [decide_eq_true ⟨file', hfile'⟩] at hnot
        cases hnot
      rcases reached_of_split hway hsplit hbare with ⟨names, rfl, hreached⟩
      exact ⟨some file, .found hreached hfile⟩

variable (hway : h.locate (searchStart name? cwd) = (searchStart name? cwd).names)
  (hfair : ∀ names, names <+: h.locate (searchStart name? cwd) →
    (h.reading (projectFile ⟨(searchStart name? cwd).root, names⟩)).IsFair)

include hway hfair

/-- What a search finds is nearest. -/
theorem nearest_of_searchEnd (hend : h.searchEnd (wayUp name? cwd) = .ok r) :
    h.Nearest (searchStart name? cwd) r := by
  unfold searchEnd at hend
  cases hfind : (wayUp name? cwd).findSome? h.end? with
  | none =>
      rw [hfind] at hend
      cases hend
      rw [List.findSome?_eq_none_iff] at hfind
      refine .none fun names hnames file => ?_
      rw [hway] at hnames
      exact not_configures_of_end? (hfind _ (mem_wayUp_iff.mpr ⟨names, hnames, rfl⟩)) file
  | some answer =>
      rw [hfind] at hend
      rcases except_map_eq_ok.mp hend with ⟨file, rfl, rfl⟩
      rcases List.findSome?_eq_some_iff.mp hfind with
        ⟨before, directory, after, hsplit, hdirectory, hbefore⟩
      rcases reached_of_split hway hsplit fun d hd => not_configures_of_end? (hbefore d hd) with
        ⟨names, rfl, hreached⟩
      exact .found hreached (configures_of_end? (hfair names hreached.1) hdirectory)

/-- A search finds the nearest configuration unless it comes to a directory that does not answer. -/
theorem searchEnd_eq_ok_iff (hnearest : h.Nearest (searchStart name? cwd) r) :
    h.searchEnd (wayUp name? cwd) = .ok r ↔
      ∀ names, h.Reached (searchStart name? cwd) names →
        h.Answers ⟨(searchStart name? cwd).root, names⟩ := by
  constructor
  · intro hend names hreached
    -- A directory that does not answer ends the search, and nothing below it does so before.
    by_contra hsilent
    rcases h.exists_trips hsilent with ⟨e, htrips⟩
    have hfails := end?_eq_error_iff.mpr htrips
    have hmem : (⟨(searchStart name? cwd).root, names⟩ : Path) ∈ wayUp name? cwd :=
      mem_wayUp_iff.mpr ⟨names, hway ▸ hreached.1, rfl⟩
    cases hfind : (wayUp name? cwd).findSome? h.end? with
    | none =>
        rw [List.findSome?_eq_none_iff] at hfind
        cases (hfind _ hmem).symm.trans hfails
    | some answer =>
        unfold searchEnd at hend
        rw [hfind] at hend
        rcases except_map_eq_ok.mp hend with ⟨file, rfl, _⟩
        rcases List.findSome?_eq_some_iff.mp hfind with
          ⟨before, directory, after, hsplit, hdirectory, hbefore⟩
        -- It would end well elsewhere: not further up, for it does not get there, and not below,
        -- where there is no configuration.
        rw [hsplit, List.mem_append, List.mem_cons] at hmem
        rcases hmem with hmem | rfl | hmem
        · cases (hbefore _ hmem).symm.trans hfails
        · cases hdirectory.symm.trans hfails
        · rcases reached_of_split hway hsplit fun d hd =>
            not_configures_of_end? (hbefore d hd) with ⟨below, rfl, hbelow⟩
          have hfile := configures_of_end? (hfair below hbelow.1) hdirectory
          exact hreached.2 below hbelow.1 ((wayUp_split hsplit).2 _ hmem) file hfile
  · intro hanswers
    cases hend : h.searchEnd (wayUp name? cwd) with
    | error e =>
        rcases searchEnd_eq_error_iff.mp hend with
          ⟨before, directory, after, hsplit, hbefore, htrips⟩
        rcases reached_of_split hway hsplit fun d hd =>
          not_configures_of_end? (isPassed_iff.mp (hbefore d hd)) with ⟨names, rfl, hreached⟩
        exact absurd (hanswers names hreached) (htrips.not_answers (hfair names hreached.1))
    | ok r' => rw [(nearest_of_searchEnd hway hfair hend).unique hnearest]

end Search

/-- A host that answers as another does where a search from a start looks: at the configurations of
    the directories that are reached, and at the files of projects there. All else may differ. -/
def LooksLike (h' h : Host) (start : Path) : Prop :=
  ∀ names, h.Reached start names →
    h'.look (ownConfig ⟨start.root, names⟩) = h.look (ownConfig ⟨start.root, names⟩) ∧
    h'.look (projectFile ⟨start.root, names⟩) = h.look (projectFile ⟨start.root, names⟩) ∧
    h'.reading (projectFile ⟨start.root, names⟩) = h.reading (projectFile ⟨start.root, names⟩)

/-- A host that looks like another is searched with the same notes and to the same end. -/
theorem LooksLike.search {h' : Host} {name? : Option String} {cwd : Path}
    (hlooks : h'.LooksLike h (searchStart name? cwd))
    (hway : h.locate (searchStart name? cwd) = (searchStart name? cwd).names) :
    h'.notes (wayUp name? cwd) = h.notes (wayUp name? cwd) ∧
      h'.searchEnd (wayUp name? cwd) = h.searchEnd (wayUp name? cwd) := by
  refine search_congr fun before directory after hsplit hbefore => ?_
  rcases reached_of_split hway hsplit fun d hd =>
    not_configures_of_end? (isPassed_iff.mp (hbefore d hd)) with ⟨names, rfl, hreached⟩
  rcases hlooks names hreached with ⟨hown, hproject, hread⟩
  unfold glance
  rw [hown, hproject, hread]

end Host

/-- From an absolute start without pairs of dots, and where the files of projects are fair, there is
    one nearest configuration, or there is none. A search finds it, on every host that looks the
    same, unless it comes to a directory that does not answer or a note cannot be written; and it
    never finds anything else. -/
theorem findConfig_nearest {start : Option String} {w : World}
    (habsolute : (searchStart start w.host.cwd).isAbsolute)
    (hplain : ".." ∉ (searchStart start w.host.cwd).names)
    (hfair : ∀ names, names <+: w.host.locate (searchStart start w.host.cwd) →
      (w.host.reading
        (projectFile ⟨(searchStart start w.host.cwd).root, names⟩)).IsFair) :
    ∃ r, w.host.Nearest (searchStart start w.host.cwd) r ∧
      ∀ w' : World, searchStart start w'.host.cwd = searchStart start w.host.cwd →
        w'.host.LooksLike w.host (searchStart start w.host.cwd) →
        ((findConfig start w').1 = .ok r ↔
          (∀ names, w.host.Reached (searchStart start w.host.cwd) names →
            w.host.Answers ⟨(searchStart start w.host.cwd).root, names⟩) ∧
          (noteAll (w.host.notes (wayUp start w.host.cwd)) w').1 = .ok ()) ∧
        ∀ r', (findConfig start w').1 = .ok r' → r' = r := by
  have hway : w.host.locate (searchStart start w.host.cwd)
      = (searchStart start w.host.cwd).names := Path.resolve_of_plain habsolute hplain _
  rcases Host.exists_nearest hway with ⟨r, hnearest⟩
  refine ⟨r, hnearest, fun w' hstart hlooks => ?_⟩
  have hwayUp : wayUp start w'.host.cwd = wayUp start w.host.cwd := by
    unfold wayUp
    rw [hstart]
  rcases hlooks.search hway with ⟨hnotes, hend⟩
  -- Both worlds are searched alike, so the rest is about the end of one search.
  rw [← Host.searchEnd_eq_ok_iff hway hfair hnearest, findConfig_apply, hwayUp, hnotes, hend]
  rcases hrun : noteAll (w.host.notes (wayUp start w.host.cwd)) w' with ⟨e | _, w''⟩
  · rw [bind_error hrun]
    simp
  · rw [bind_ok hrun, ofExcept_apply]
    refine ⟨by simp, fun r' hr' => ?_⟩
    exact (Host.nearest_of_searchEnd hway hfair hr').unique hnearest

/-- A world with a configuration at the root, and below it a project without the launcher and a file
    that is no TOML. -/
def World.layered : World :=
  World.start { (default : Host) with
    cwd := ⟨.single, ["work", "app"]⟩
    files := [(["work", "app", "pyproject.toml"], .octets [0x78]),
      (["work", "pyproject.toml"], .octets [0x5B, 0x74, 0x6F, 0x6F, 0x6C, 0x5D]),
      ([".appium-launcher", "config.toml"], .octets [])] }
    default .seconds

/-- The file that is no TOML is passed over, and so is the project. -/
theorem findConfig_nearest_layered :
    (findConfig none .layered).1 = .ok (some (ownConfig ⟨.single, []⟩)) ∧
      World.layered.host.Nearest ⟨.single, ["work", "app"]⟩
        (some (ownConfig ⟨.single, []⟩)) := by
  have hfound : (findConfig none .layered).1 = .ok (some (ownConfig ⟨.single, []⟩)) := rfl
  have hfair : ∀ names, names <+: ["work", "app"] →
      (World.layered.host.reading (projectFile ⟨.single, names⟩)).IsFair := by
    intro names hnames
    have hcases : names = ["work", "app"] ∨ names = ["work"] ∨ names = [] := by
      rw [← mem_beginnings_iff] at hnames
      simpa [Path.beginnings] using hnames
    rcases hcases with rfl | rfl | rfl
    · rintro bs ⟨rfl⟩
      refine ⟨"x", rfl, fun project tools hparse => ?_⟩
      have hdocument : Toml.parse "x" = .error .malformed := rfl
      cases hdocument.symm.trans hparse
    · rintro bs ⟨rfl⟩
      refine ⟨"[tool]", rfl, fun project tools hparse htools => ?_⟩
      have hdocument : Toml.parse "[tool]" = .ok [(.text "tool", .dict [])] := rfl
      cases hdocument.symm.trans hparse
      exact ⟨[], (Option.some.inj htools).symm⟩
    · rintro bs ⟨⟩
  rcases @findConfig_nearest none .layered rfl (by decide) hfair with ⟨r, hnearest, hsearch⟩
  rcases hsearch .layered rfl fun _ _ => ⟨rfl, rfl, rfl⟩ with ⟨_, hunique⟩
  cases hunique _ hfound
  exact ⟨hfound, hnearest⟩

end ServerLaunch

import ServerLaunch.Proofs.Discovery
import ServerLaunch.Server.Builder

/-!
# Building a Launch

What a build does to the builder and to the world, step by step.

A build reads its settings at different moments: the port before the files are searched,
the address after, the table of flags last, and the handle is made from what the builder
holds by then. So each step is described by the builder that it leaves, and the whole build
by one builder, `launchReady`, in which all that was found is kept. That builder is reached
whenever the build gives a handle, and the command line and the handle are both read off
it.

What the search may do to the world is known from the search alone: it asks for no port.
The only such question is the first step's, and only where any free port will do.

## Main definitions

* `Builder.launchPort`: The port a build settles on.
* `Builder.launchReady`: The builder with all that a build found.
* `Builder.Finds`: Nothing changes but what a build finds.

## Theorems

* `Builder.pickPort_apply`: The port is settled first, and kept even if the step fails.
* `Builder.buildArguments_eq_ok`: The command line, and what is kept of the search for it.
* `Builder.keeps_build`: A build finds things, even if it fails.
* `Builder.build_eq_ok`: A build that gives a handle.
-/

namespace ServerLaunch

open Act World

namespace Builder

/-- The port that a build settles on: the one that is set, unless any will do. -/
def launchPort (b : Builder) (host : Host) : Int :=
  if b.port = 0 then host.freePort else b.port

/-- The builder with what a search found and the address it binds to. -/
def pinned (b : Builder) (script : Path) : Builder :=
  { b with mainScript := some script, address := some b.boundAddress }

/-- The builder with all that a build found. -/
def launchReady (b : Builder) (host : Host) (executable script : Path) : Builder :=
  { b with
    port := b.launchPort host, executable := some executable, mainScript := some script
    address := some b.boundAddress }

/-- A server is never bound to an address without a text. -/
theorem boundAddress_ne_empty (b : Builder) : b.boundAddress ≠ "" := by
  unfold boundAddress
  cases b.address with
  | none => decide
  | some address =>
      by_cases h : address.toList.isEmpty
      · simp only [h, if_true]
        decide
      · simp only [h]
        rintro rfl
        exact h rfl

/-- An address that a server is bound to stands for itself. -/
theorem boundAddress_of_some {b : Builder} {address : String} (h : b.address = some address)
    (hne : address ≠ "") : b.boundAddress = address := by
  have hlist : address.toList.isEmpty = false := by
    rw [List.isEmpty_eq_false_iff]
    exact fun hnil => hne (String.toList_eq_nil_iff.mp hnil)
  simp only [boundAddress, h, hlist, Bool.false_eq_true, if_false]

@[simp] theorem self_apply (s : Builder × World) : self s = (.ok s.1, s) := rfl

@[simp] theorem change_apply (f : Builder → Builder) (s : Builder × World) :
    change f s = (.ok (), (f s.1, s.2)) := rfl

/-- Whatever is done in the world, the builder stays as it is. -/
theorem inWorld_eq_iff {α : Type} {a : WorldAct α} {b b' : Builder} {w w' : World}
    {r : Except Failure α} :
    inWorld a (b, w) = (r, (b', w')) ↔ b = b' ∧ a w = (r, w') := by
  change ((a w).1, (b, (a w).2)) = (r, (b', w')) ↔ _
  simp only [Prod.ext_iff]
  exact ⟨fun ⟨h₁, h₂, h₃⟩ => ⟨h₂, h₁, h₃⟩, fun ⟨h₁, h₂, h₃⟩ => ⟨h₂, h₁, h₃⟩⟩

theorem note_eq_iff {level : LogLevel} {message : String} {b b' : Builder} {w w' : World}
    {r : Except Failure Unit} :
    note level message (b, w) = (r, (b', w')) ↔
      b = b' ∧ b.log.log level message w = (r, w') :=
  inWorld_eq_iff

theorem resolveExecutable_eq_iff {b b' : Builder} {w w' : World} {r : Except Failure Path} :
    resolveExecutable (b, w) = (r, (b', w')) ↔
      b = b' ∧ b.locator.resolveNode b.executable w = (r, w') :=
  inWorld_eq_iff

/-- A builder with a port that is set is left as it is, and so is the world. -/
theorem pickPort_of_ne {b : Builder} (hport : b.port ≠ 0) (w : World) :
    pickPort (b, w) = (.ok (), (b, w)) := by
  unfold pickPort
  rw [bind_ok (self_apply (b, w)), if_neg hport]
  rfl

/-- Where any free port will do, the host is asked for one before anything is written. -/
theorem pickPort_of_eq {b : Builder} (hport : b.port = 0) (w : World) :
    pickPort (b, w) = note .debug ("Picked free port " ++ Numeral.intText w.host.freePort)
      ({ b with port := w.host.freePort }, w.record (.boundPort w.host.freePort)) := by
  unfold pickPort
  rw [bind_ok (self_apply (b, w)), if_pos hport]
  rfl

/-- The port is settled first, and the builder keeps it even if the message about it
    fails. A host is asked for a port exactly if any will do. -/
theorem pickPort_apply (b : Builder) (w : World) :
    (pickPort (b, w)).2.1 = { b with port := b.launchPort w.host } ∧
      Onward Event.isPreparation w (pickPort (b, w)).2.2 ∧
      ∃ es, (pickPort (b, w)).2.2.past = es ++ w.past ∧
        ((∃ port, .boundPort port ∈ es) ↔ b.port = 0) := by
  by_cases hport : b.port = 0
  · rw [pickPort_of_eq hport w]
    rcases hnote : note .debug ("Picked free port " ++ Numeral.intText w.host.freePort)
      ({ b with port := w.host.freePort }, w.record (.boundPort w.host.freePort)) with
      ⟨r, b₁, w₁⟩
    rcases note_eq_iff.mp hnote with ⟨rfl, hnote'⟩
    -- The question comes before the message, so it is asked even if the message fails.
    have hlog := b.log.keeps_log_search .debug
      ("Picked free port " ++ Numeral.intText w.host.freePort)
      (w.record (.boundPort w.host.freePort))
    rw [hnote'] at hlog
    rcases hlog.past with ⟨es, hes, hkind⟩
    refine ⟨by simp only [launchPort, hport, if_true], ?_,
      es ++ [.boundPort w.host.freePort], ?_, ?_⟩
    · exact (record_onward rfl w).trans (hlog.mono fun _ => Event.isPreparation_of_isSearch)
    · rw [List.append_assoc]
      exact hes
    · refine ⟨fun _ => hport, fun _ => ⟨w.host.freePort, ?_⟩⟩
      exact List.mem_append_right es (List.mem_singleton.mpr rfl)
  · rw [pickPort_of_ne hport w]
    refine ⟨by simp only [launchPort, hport, if_false], .refl _ w, [], rfl, ?_⟩
    exact ⟨fun ⟨_, hmem⟩ => absurd hmem List.not_mem_nil, fun h => absurd h hport⟩

/-- The command line is written once the script is found, and what was found is kept. -/
theorem buildArguments_eq_ok {b b' : Builder} {w w' : World} {words : List String}
    (h : buildArguments (b, w) = (.ok words, (b', w'))) :
    ∃ script last, b.locator.resolveMainScript b.mainScript w = (.ok script, w') ∧
      b' = b.pinned script ∧ b'.capabilityTokens w'.host = .ok last ∧
      words = b'.leadingTokens w'.host.cwd script ++ flagTokens b'.arguments ++ last := by
  unfold buildArguments at h
  rw [bind_ok (self_apply (b, w))] at h
  rcases bind_eq_ok.mp h with ⟨script, ⟨b₁, w₁⟩, hscript, h⟩
  rcases inWorld_eq_iff.mp hscript with ⟨rfl, hfound⟩
  rw [bind_ok (change_apply _ _), bind_ok (self_apply _), bind_ok (get_apply _)] at h
  rcases bind_eq_ok.mp h with ⟨last, s₂, hlast, h⟩
  simp only [ofExcept_apply, Prod.mk.injEq] at hlast
  rcases hlast with ⟨hlast, rfl⟩
  simp only [pure_apply, Prod.mk.injEq, Except.ok.injEq] at h
  rcases h with ⟨rfl, rfl, rfl⟩
  exact ⟨script, last, hfound, rfl, hlast, rfl⟩

/-- Finding the program and writing the command line are searches, and no more. -/
theorem buildArguments_onward {b b' : Builder} {w w' : World} {words : List String}
    (h : buildArguments (b, w) = (.ok words, (b', w'))) : Onward Event.isSearch w w' := by
  rcases buildArguments_eq_ok h with ⟨script, last, hfound, _⟩
  have honward := b.locator.keeps_resolveMainScript b.mainScript w
  rw [hfound] at honward
  exact honward

section Builds

/-! ## Builds that may fail -/

/-- Nothing of a builder changes but what a build finds, and the world goes on as it does
    when a launch is prepared. -/
structure Finds (s t : Builder × World) : Prop where
  frame : t.1 = { s.1 with
    port := t.1.port, executable := t.1.executable, mainScript := t.1.mainScript
    address := t.1.address }
  world : Onward Event.isPreparation s.2 t.2

theorem Finds.arguments {s t : Builder × World} (h : Finds s t) :
    t.1.arguments = s.1.arguments := by rw [h.frame]

instance : Std.Refl Finds := ⟨fun s => ⟨rfl, .refl _ s.2⟩⟩

instance : IsTrans (Builder × World) Finds :=
  ⟨fun _ _ _ h h' => ⟨by rw [h'.frame, h.frame], h.world.trans h'.world⟩⟩

theorem keeps_inWorld {α : Type} {a : WorldAct α} (ha : a.Keeps (Onward Event.isPreparation)) :
    (inWorld a).Keeps Finds :=
  fun s => ⟨rfl, ha s.2⟩

/-- A search is a case of all that a preparation does. -/
theorem keeps_searching {α : Type} {a : WorldAct α} (ha : a.Keeps (Onward Event.isSearch)) :
    (inWorld a).Keeps Finds :=
  keeps_inWorld (ha.mono fun _ _ h => h.mono fun _ => Event.isPreparation_of_isSearch)

theorem keeps_note (level : LogLevel) (message : String) : (note level message).Keeps Finds :=
  Keeps.bind .get fun b => keeps_searching (b.log.keeps_log_search level message)

theorem keeps_buildArguments : buildArguments.Keeps Finds := by
  refine Keeps.bind .get fun b =>
    Keeps.bind (keeps_searching (b.locator.keeps_resolveMainScript _)) fun script => ?_
  refine Keeps.bind (Keeps.modify fun s => ⟨rfl, .refl _ s.2⟩) fun _ => ?_
  exact Keeps.bind .get fun b' => Keeps.bind .get fun s => Keeps.bind (.ofExcept _) fun _ =>
    .pure _

/-- A build finds things and touches no setting, even if it stops halfway. -/
theorem keeps_build : build.Keeps Finds := by
  have hport : (inWorld findFreePort).Keeps Finds :=
    keeps_inWorld (Keeps.modifyGet fun w => record_onward rfl w)
  have hlogger (b : Builder) : (inWorld b.log.object).Keeps Finds :=
    keeps_searching (b.log.keeps_object.mono fun _ _ h => h.mono fun _ =>
      Event.isSearch_of_isLogging)
  -- Three stages: the port, the program, and all that comes once both are there.
  refine Keeps.bind ?_ fun _ => Keeps.bind ?_ fun executable => ?_
  · refine Keeps.bind .get fun b => Keeps.ite (Keeps.bind hport fun port => ?_) (.pure _)
    exact Keeps.bind (Keeps.modify fun s => ⟨rfl, .refl _ s.2⟩) fun _ => keeps_note _ _
  · exact Keeps.bind .get fun b => keeps_searching (b.locator.keeps_resolveNode _)
  · refine Keeps.bind (Keeps.modify fun s => ⟨rfl, .refl _ s.2⟩) fun _ =>
      Keeps.bind keeps_buildArguments fun words => Keeps.bind (keeps_note _ _) fun _ => ?_
    exact Keeps.bind .get fun b => Keeps.bind (hlogger b) fun logger =>
      Keeps.bind .get fun b' => .pure _

end Builds

/-- A build that gives a handle: the builder that it leaves, the world around it, and the
    handle, which is made from that builder. -/
theorem build_eq_ok {b b' : Builder} {w w' : World} {handle : Handle}
    (h : build (b, w) = (.ok handle, (b', w'))) :
    ∃ executable script last logger,
      b' = b.launchReady w.host executable script ∧
      b'.capabilityTokens w.host = .ok last ∧
      handle = b'.handle executable
        (b'.leadingTokens w.host.cwd script ++ flagTokens b'.arguments ++ last) logger ∧
      (∃ w₁, b.log.object w₁ = (.ok logger, w')) ∧
      ∃ es, w'.past = es ++ w.past ∧ ((∃ port, .boundPort port ∈ es) ↔ b.port = 0) := by
  unfold build at h
  -- The steps are taken off one by one, each with the builder that the next one starts from.
  rcases bind_eq_ok.mp h with ⟨_, ⟨b₁, w₁⟩, hpick, h⟩
  rcases pickPort_apply b w with ⟨hb₁, hw₁, es₁, hes₁, hport⟩
  rw [hpick] at hb₁ hw₁ hes₁
  simp only at hb₁ hw₁ hes₁
  rcases bind_eq_ok.mp h with ⟨executable, ⟨b₂, w₂⟩, hnode, h⟩
  rcases resolveExecutable_eq_iff.mp hnode with ⟨rfl, hnode'⟩
  have hw₂ := b₁.locator.keeps_resolveNode b₁.executable w₁
  rw [hnode'] at hw₂
  rw [bind_ok (change_apply _ _)] at h
  rcases bind_eq_ok.mp h with ⟨words, ⟨b₃, w₃⟩, hwords, h⟩
  have hw₃ := buildArguments_onward hwords
  rcases buildArguments_eq_ok hwords with ⟨script, last, _, hb₃, hlast, hlist⟩
  rcases bind_eq_ok.mp h with ⟨_, ⟨b₄, w₄⟩, hnote, h⟩
  rcases note_eq_iff.mp hnote with ⟨rfl, hnote'⟩
  have hw₄ := b₃.log.keeps_log_search .debug
    ("Service command: " ++ executable.toText ++ " " ++ wordList words) w₃
  rw [hnote'] at hw₄
  rw [bind_ok (self_apply _)] at h
  rcases bind_eq_ok.mp h with ⟨logger, ⟨b₅, w₅⟩, hobject, h⟩
  rcases inWorld_eq_iff.mp hobject with ⟨rfl, hobject'⟩
  have hw₅ := b₃.log.keeps_object w₄
  rw [hobject'] at hw₅
  rw [bind_ok (self_apply _)] at h
  simp only [pure_apply, Prod.mk.injEq, Except.ok.injEq] at h
  rcases h with ⟨rfl, rfl, rfl⟩
  -- All that follows the choice of a port is a search, in which no port is asked for.
  have hsearch : Onward Event.isSearch w₁ w₅ :=
    hw₂.trans (hw₃.trans (hw₄.trans (hw₅.mono fun _ => Event.isSearch_of_isLogging)))
  have hhost : w₃.host = w.host := hw₃.host.trans (hw₂.host.trans hw₁.host)
  rw [hhost] at hlast hlist
  rw [hb₁] at hb₃
  have hlog : b₃.log = b.log := by rw [hb₃]; rfl
  rw [hlog] at hobject'
  refine ⟨executable, script, last, logger, hb₃, hlast, by rw [hlist], ⟨w₄, hobject'⟩, ?_⟩
  rcases hsearch.past with ⟨es, hes, hkind⟩
  refine ⟨es ++ es₁, by rw [hes, hes₁, List.append_assoc], ?_⟩
  rw [← hport]
  constructor
  · rintro ⟨port, hmem⟩
    rcases List.mem_append.mp hmem with hmem | hmem
    · exact absurd (hkind _ hmem) Bool.false_ne_true
    · exact ⟨port, hmem⟩
  · rintro ⟨port, hmem⟩
    exact ⟨port, List.mem_append_right es hmem⟩

end Builder

end ServerLaunch

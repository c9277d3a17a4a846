import ServerLaunch.Proofs.BuilderInvariant
import ServerLaunch.Proofs.SetStore

/-!
# Capabilities Call After Call

The laws of merging, and what they come to for a builder.

A builder takes capabilities as often as one likes. Every call merges its argument over the set
that is there, and the first over none; a call whose argument gives nothing makes the set
present all the same. The form of the set is a choice apart, which counts even if the argument
of the call is refused. No other call has anything to do with either, be it a flag, a setter
or a build that fails halfway, so both can be told from the calls alone.

## Main definitions

* `BuilderCall.added?`, `BuilderCall.quoting?`: What a call adds, and the form that it chooses.
* `Builder.SameSet`: What all other calls have in common.
* `Capabilities.mergeAll?`: Arguments merged in order.

## Theorems

* `BuilderCall.perform_capabilities`, `BuilderCall.performAll_capabilities`: One call, and any
  number of calls.
* `Capabilities.merge_lawful`: Sets under merging.
-/

namespace ServerLaunch

open Act

namespace BuilderCall

/-- The capabilities that a call adds, if its argument is not refused. -/
def added? : BuilderCall → Option Entries
  | .capabilities v _ => v.toPairs.toOption
  | _ => none

/-- The form of its capabilities that a call chooses for a builder, if it chooses one. -/
def quoting? : BuilderCall → Option Bool
  | .capabilities _ quote => quote
  | _ => none

end BuilderCall

/-- Capabilities over those that are there already, if there are any. -/
def Capabilities.mergeOver (present : Option Capabilities) (es : Entries) : Option Capabilities :=
  some ((present.getD empty).merge es)

/-- Arguments merged in order; where there are none, there is no set. -/
def Capabilities.mergeAll? (arguments : List Entries) : Option Capabilities :=
  if arguments.isEmpty then none else some (arguments.foldl merge empty)

namespace Builder

/-- The set of a builder and its form stay as they are. -/
def SameSet (b b' : Builder) : Prop :=
  b'.capabilities = b.capabilities ∧ b'.quoteOnWindows = b.quoteOnWindows

theorem addArgument_sameSet {b b' : Builder} {flag : FlagName} {value : Option String}
    (h : b.addArgument flag value = .ok b') : b.SameSet b' := by
  rcases addArgument_eq_ok h with ⟨_, rfl⟩ | ⟨text, _, hcase⟩
  · exact ⟨rfl, rfl⟩
  · rcases hcase with
      ⟨_, _, _, _, rfl⟩ | ⟨_, rfl⟩ | ⟨_, rfl⟩ | ⟨_, _, _, rfl⟩ | ⟨_, _, _, _, rfl⟩ <;>
      exact ⟨rfl, rfl⟩

/-- A setting that is refused does nothing to the set either. -/
theorem adjust_sameSet {b : Builder} {f : Builder → Except Failure Builder}
    (hf : ∀ b', f b = .ok b' → b.SameSet b') (w : World) : b.SameSet (adjust f (b, w)).2.1 :=
  adjust_induction ⟨rfl, rfl⟩ hf w

/-- What a build finds is no part of the set. -/
theorem Finds.sameSet {s t : Builder × World} (h : Finds s t) : s.1.SameSet t.1 := by
  rw [SameSet, h.frame]
  exact ⟨rfl, rfl⟩

/-- The choice of the form counts in any case, and capabilities only if they are not refused. -/
theorem takeCapabilities_fst (v : Value) (quote : Option Bool) (b : Builder) (w : World) :
    (takeCapabilities v quote (b, w)).2.1 = match v.toPairs with
      | .ok es => (b.chooseQuoting quote).addCapabilities es
      | .error _ => b.chooseQuoting quote := by
  unfold takeCapabilities
  rw [bind_ok (change_apply _ _)]
  cases v.toPairs with
  | ok es => rfl
  | error e => rfl

theorem ofConfig_capabilities {config : ServerConfig} {environment : Table String}
    {locator : Locator} {hasStream : Bool} {log : LogSource} {b : Builder}
    (h : ofConfig config environment locator hasStream log = .ok b) :
    b.capabilities = none ∧ b.quoteOnWindows = false := by
  rcases ofConfig_eq_ok h with ⟨b₀, hb₀, hsame | hflag⟩
  · rw [hsame, hb₀]
    exact ⟨rfl, rfl⟩
  · have hkept := addArgument_sameSet hflag
    rw [hb₀] at hkept
    exact hkept

end Builder

namespace BuilderCall

/-- What one call does to the set of a builder and to its form. -/
theorem perform_capabilities (c : BuilderCall) (b : Builder) (w : World) :
    (c.perform (b, w)).2.1.capabilities
        = (match c.added? with
          | some es => Capabilities.mergeOver b.capabilities es
          | none => b.capabilities) ∧
      (c.perform (b, w)).2.1.quoteOnWindows = c.quoting?.getD b.quoteOnWindows := by
  cases c with
  | capabilities v quote =>
      rw [perform, Builder.takeCapabilities_fst, added?]
      cases v.toPairs with
      | ok es => exact ⟨rfl, rfl⟩
      | error e => exact ⟨rfl, rfl⟩
  | port p =>
      rw [perform, Builder.usePort_eq]
      refine Builder.adjust_sameSet (fun b' hset => ?_) w
      rw [(Builder.setPort_eq_ok (mapError_eq_ok.mp hset)).2]
      exact ⟨rfl, rfl⟩
  | timeout v =>
      rw [perform, Builder.useTimeout_eq]
      refine Builder.adjust_sameSet (fun b' hset => ?_) w
      rw [Builder.setTimeoutValue_eq_ok hset]
      exact ⟨rfl, rfl⟩
  | argument flag value =>
      rw [perform, Builder.useArgument_eq]
      exact Builder.adjust_sameSet
        (fun b' hset => Builder.addArgument_sameSet (mapError_eq_ok.mp hset)) w
  | buildArguments =>
      unfold perform
      rw [drop_snd]
      exact (Builder.keeps_buildArguments (b, w)).sameSet
  | build =>
      unfold perform
      rw [drop_snd]
      exact (Builder.keeps_build (b, w)).sameSet
  | _ => exact ⟨rfl, rfl⟩

/-- After any calls the set is that of before with what the calls added over it, in order. -/
theorem performAll_capabilities (b : Builder) (calls : List (BuilderCall × World)) :
    (performAll b calls).capabilities
      = (calls.filterMap fun call => call.1.added?).foldl Capabilities.mergeOver
          b.capabilities := by
  induction calls generalizing b with
  | nil => rfl
  | cons call calls ih =>
      -- The rest of the calls starts from what the first one leaves.
      rw [performAll, ih, (perform_capabilities call.1 b call.2).1, List.filterMap_cons]
      cases call.1.added? with
      | some es => rfl
      | none => rfl

/-- After any calls the form is the one that was chosen last. -/
theorem performAll_quoteOnWindows (b : Builder) (calls : List (BuilderCall × World)) :
    (performAll b calls).quoteOnWindows
      = (calls.filterMap fun call => call.1.quoting?).getLast?.getD b.quoteOnWindows := by
  induction calls generalizing b with
  | nil => rfl
  | cons call calls ih =>
      rw [performAll, ih, (perform_capabilities call.1 b call.2).2, List.filterMap_cons]
      cases call.1.quoting? with
      | some quote =>
          -- The first choice counts only if there is none behind it.
          rw [List.getLast?_cons]
          rfl
      | none => rfl

/-- A mapping of either kind is never refused. -/
theorem added?_of_entries {v : Value} {es : Entries} (h : v.entries? = some es)
    (quote : Option Bool) : (capabilities v quote).added? = some es := by
  rw [added?, Value.toPairs_of_entries h]
  rfl

end BuilderCall

namespace Capabilities

theorem foldl_mergeOver (c : Capabilities) (arguments : List Entries) :
    arguments.foldl mergeOver (some c) = some (arguments.foldl merge c) := by
  induction arguments generalizing c with
  | nil => rfl
  | cons es arguments ih => exact ih (c.merge es)

/-- The first argument is merged over the empty set. -/
theorem foldl_mergeOver_none (arguments : List Entries) :
    arguments.foldl mergeOver none = mergeAll? arguments := by
  cases arguments with
  | nil => rfl
  | cons es arguments => exact foldl_mergeOver _ arguments

open BuilderCall in
/-- Merging keeps the order of names and prefers the later value, it is associative, and nothing
    comes of merging nothing. Sets and dictionaries in store are left alone by it, and by an edit
    of any dictionary that a caller holds; the sets in store are those that merging gives. So the
    set of a builder, after whatever calls, is the merge of the arguments in the order of the
    calls, and its form is the last one chosen. -/
theorem merge_lawful {a b c : Capabilities} (ha : Entries.Named a.entries)
    (hb : Entries.Named b.entries) (hc : Entries.Named c.entries) (deeds : List Store.Deed)
    {config : Option ServerConfig} {locator : Option Locator} {hasStream : Bool}
    {logger : Option Logger} {w w' : World} {builder : Builder}
    (hcreate : Builder.create config locator hasStream logger w = (.ok builder, w'))
    (calls : List (BuilderCall × World)) :
    (a.mergeValue b.toValue = .ok (a.merge b.entries) ∧ Merges a b (a.merge b.entries)) ∧
    (a.merge b.entries).merge c.entries = a.merge (b.merge c.entries).entries ∧
    (a.merge empty.entries = a ∧ empty.merge a.entries = a ∧ a.mergeValue .null = .ok a) ∧
    ((∀ d, (Store.run (deeds ++ [d])).view
        = (Store.run deeds).view ++ (Store.run deeds).made d) ∧
      (∀ more, (Store.run deeds).view <+: (Store.run (deeds ++ more)).view) ∧
      ∀ d place, place ∈ (Store.run deeds).held → (∀ e, d ≠ .edit place e) →
        (Store.run (deeds ++ [d])).read place = (Store.run deeds).read place) ∧
    (performAll builder calls).capabilities
        = mergeAll? (calls.filterMap fun call => call.1.added?) ∧
      (∀ v es, v.entries? = some es → ∀ quote, (capabilities v quote).added? = some es) ∧
      (∀ quote, (capabilities .null quote).added? = some []) ∧
      (performAll builder calls).quoteOnWindows
        = (calls.filterMap fun call => call.1.quoting?).getLast?.getD false := by
  rcases Builder.create_eq_ok hcreate with ⟨config', environment, locator', log, hconfig, _⟩
  rcases Builder.ofConfig_capabilities hconfig with ⟨hnone, hquote⟩
  have hapart := Store.run_apart deeds
  refine ⟨⟨mergeValue_of_entries rfl, merge_merges ha hb⟩, merge_assoc ha hb hc,
    ⟨rfl, empty_merge ha.distinct, mergeValue_null⟩, ⟨fun d => ?_, Store.run_view_prefix deeds,
      fun d place hheld hd => ?_⟩, ?_, fun v es h quote => added?_of_entries h quote,
    fun _ => rfl, ?_⟩
  · rw [Store.run_concat, Store.view_perform hapart]
  · rw [Store.run_concat, (Store.perform_does hapart d).read_held hapart hheld hd]
  · rw [performAll_capabilities, hnone, foldl_mergeOver_none]
  · rw [performAll_quoteOnWindows, hquote]

/-- A platform and an app. -/
def androidApp : Capabilities :=
  ⟨[(.text "platformName", .text "Android"), (.text "appium:app", .text "a.apk")]⟩

/-- A device and another app. -/
def deviceApp : Capabilities :=
  ⟨[(.text "appium:udid", .text "emulator-5554"), (.text "appium:app", .text "b.apk")]⟩

/-- A platform that is null. -/
def noPlatform : Capabilities :=
  ⟨[(.text "platformName", .null)]⟩

/-- A dictionary is written, a set is made of it, and the set is merged over another. -/
def mergeDeeds : List Store.Deed :=
  [.write deviceApp.entries, .construct (some 0) [], .construct none androidApp.entries,
    .merge 2 (some 1)]

/-- Two sets are added. In between a flag is refused, a number is refused that would be a set, and
    a build fails. -/
def mergeCalls : List (BuilderCall × World) :=
  [(.capabilities androidApp.toValue none, .twoFiles),
    (.argument (.text "-p") (some "-1"), .twoFiles),
    (.capabilities (.int 1) (some true), .twoFiles), (.build, .twoFiles),
    (.capabilities deviceApp.toValue none, .twoFiles)]

/-- The copy of a merged set is cleared, and so is the dictionary that it all began with: the sets
    stay what they are. -/
theorem merge_lawful_samples :
    ∃ builder w', Builder.create (some {}) (some ⟨[], .null, .given (.logger .journal)⟩) false
        (some .journal) .twoFiles = (.ok builder, w') ∧
      Entries.Named androidApp.entries ∧ Entries.Named deviceApp.entries ∧
      Entries.Named noPlatform.entries ∧
      Merges androidApp deviceApp
        ⟨[(.text "platformName", .text "Android"), (.text "appium:app", .text "b.apk"),
          (.text "appium:udid", .text "emulator-5554")]⟩ ∧
      (androidApp.merge deviceApp.entries).merge noPlatform.entries
        = androidApp.merge (deviceApp.merge noPlatform.entries).entries ∧
      [deviceApp, androidApp, androidApp.merge deviceApp.entries] <+:
        (Store.run (mergeDeeds ++ [.copy 4, .edit 5 .clear, .edit 0 .clear])).view ∧
      (BuilderCall.performAll builder mergeCalls).capabilities
        = some (androidApp.merge deviceApp.entries) ∧
      (BuilderCall.performAll builder mergeCalls).quoteOnWindows = true := by
  have hcreate : Builder.create (some {}) (some ⟨[], .null, .given (.logger .journal)⟩) false
      (some .journal) .twoFiles = (.ok _, _) := rfl
  have ha : Entries.Named androidApp.entries :=
    @Entries.Named.of_keys _ ["platformName", "appium:app"] rfl (by decide)
  have hb : Entries.Named deviceApp.entries :=
    @Entries.Named.of_keys _ ["appium:udid", "appium:app"] rfl (by decide)
  have hc : Entries.Named noPlatform.entries :=
    @Entries.Named.of_keys _ ["platformName"] rfl (by decide)
  rcases merge_lawful ha hb hc mergeDeeds hcreate mergeCalls with
    ⟨⟨_, hmerges⟩, hassoc, _, ⟨_, hlasting, _⟩, hset, _, _, hform⟩
  exact ⟨_, _, hcreate, ha, hb, hc, hmerges, hassoc, hlasting _, hset, hform⟩

end Capabilities

end ServerLaunch

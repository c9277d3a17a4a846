import ServerLaunch.Proofs.JsonRoundTrip
import ServerLaunch.Proofs.OptionsOverSettings
import ServerLaunch.Proofs.WrittenJson

/-!
# Standard JSON

Whether a token of capabilities is JSON to everybody who reads it.

The reader lets in the words for infinities and for the not-a-number, and it makes an infinity of a
number that is too large. So what is written for capabilities that were read may not be JSON, and
the theorem says when it is: exactly if all floating point numbers among them are finite. That the
set is written at all is no question, for the reader gives no value that the writer has no form for.

## Theorems

* `Json.readClosed_written`: What is read can be written.
* `Capabilities.jsonToken_isJson_iff`: When capabilities that were read make a token that is JSON.
-/

namespace ServerLaunch

namespace Json

theorem write_of_readScalar {cs rest : List Char} {v : Value}
    (h : readScalar cs = .ok (v, rest)) : ∃ token, write v = .ok token := by
  unfold readScalar at h
  split at h
  · next word w hfind =>
      cases h
      have hwords : ∀ e ∈ words, (write e.2).isOk = true := by decide
      have hok := hwords _ (List.mem_of_find?_eq_some hfind)
      cases hwrite : write v with
      | ok token => exact ⟨token, rfl⟩
      | error fault =>
          rw [hwrite] at hok
          cases hok
  · split at h
    · rcases except_map_eq_ok.mp h with ⟨_, _, hv⟩
      cases hv
      exact ⟨_, rfl⟩
    · cases h

theorem readClosed_written : ReadClosed fun _ v => ∃ token, write v = .ok token where
  scalar h := write_of_readScalar h
  text _ := ⟨_, rfl⟩
  list {_ vs} h := by
    have hmembers : ∀ v ∈ vs, ∃ token, write v = .ok token ∧ True := by simpa only [and_true]
    rcases writeMembers_of_forall hmembers with ⟨tokens, hwrite, _⟩
    exact ⟨_, by rw [write, hwrite]; rfl⟩
  dict {_ es} h := by
    have hentries : ∀ e ∈ Entries.ofPairs es,
        (∃ s, e.1 = .text s) ∧ ∃ token, write e.2 = .ok token ∧ True := by
      simp only [and_true]
      exact @Entries.forall_ofPairs (fun k => ∃ s, k = .text s)
        (fun u => ∃ token, write u = .ok token) es h
    rcases @writeEntries_of_forall (fun _ _ => True) _ (fun e he => (hentries e he).1)
      fun e he => (hentries e he).2 with ⟨tokens, hwrite, _⟩
    exact ⟨_, by rw [write, hwrite]; rfl⟩

end Json

namespace Capabilities

/-- Capabilities that are read are written as one token, which stands behind the flag of the
    capabilities unless the form with escaped quotes is asked for. The token is JSON by the grammar
    of the standard exactly if all floating point numbers among the capabilities are finite. -/
theorem jsonToken_isJson_iff {s : String} {es : Entries} (h : readCapabilities s = .ok es) :
    ∃ token, jsonToken (some es) = .ok token ∧
      (∀ (b : Builder) (host : Host), b.capabilities = none →
        (b.quoteOnWindows && host.isWindows) = false →
          (b.addCapabilities es).capabilityTokens host = .ok ["--default-capabilities", token]) ∧
      (Json.IsJson token.toList ↔ (Value.dict es).AllFinite) := by
  have hparse : Json.parse s = .ok (.dict es) := by
    unfold readCapabilities at h
    split at h
    · next hparse => rw [hparse, Except.ok.inj h]
    all_goals cases h
  rcases Json.readClosed_written.of_parse hparse with ⟨token, hwrite⟩
  have htoken : jsonToken (some es) = .ok (String.ofList token) := by
    rw [jsonToken, hwrite]
    rfl
  refine ⟨String.ofList token, htoken, fun b host hnone hquoting => ?_, ?_⟩
  · have hcapabilities :=
      CommandLine.addCapabilities_of_none hnone (CommandLine.distinct_of_readCapabilities h)
    have hquote : (b.addCapabilities es).quoteOnWindows = b.quoteOnWindows := rfl
    rw [Builder.capabilityTokens, hcapabilities]
    simp only [Capabilities.token, hquote, hquoting, htoken, Bool.false_eq_true, if_false]
  · rw [String.toList_ofList]
    exact (Json.tells_of_write _ hwrite).isJson_iff

/-- A number that is none makes a token that is not JSON; without it the token is. -/
theorem jsonToken_isJson_iff_nan :
    (∃ es, readCapabilities "\x7b\"a\": NaN\x7d" = .ok es ∧
      jsonToken (some es) = .ok "\x7b\"a\":NaN\x7d" ∧
      ¬Json.IsJson "\x7b\"a\":NaN\x7d".toList) ∧
    ∃ es, readCapabilities "\x7b\"a\": [null, true]\x7d" = .ok es ∧
      jsonToken (some es) = .ok "\x7b\"a\":[null,true]\x7d" ∧
      Json.IsJson "\x7b\"a\":[null,true]\x7d".toList := by
  have hnan : readCapabilities "\x7b\"a\": NaN\x7d" = .ok [(.text "a", .float (.nan 0))] := by cbv
  have hplain : readCapabilities "\x7b\"a\": [null, true]\x7d" =
      .ok [(.text "a", .list [.null, .bool true])] := by cbv
  constructor
  · rcases jsonToken_isJson_iff hnan with ⟨token, htoken, _, hiff⟩
    have hwritten : jsonToken (some [(.text "a", .float (.nan 0))]) =
        .ok "\x7b\"a\":NaN\x7d" := by cbv
    rw [Except.ok.inj (htoken.symm.trans hwritten)] at hiff
    refine ⟨_, hnan, hwritten, fun hjson => ?_⟩
    have hheld : (Value.dict [(.text "a", .float (.nan 0))]).Holds (.float (.nan 0)) :=
      .dict List.mem_cons_self (.self _)
    exact Bool.false_ne_true (hiff.mp hjson _ hheld)
  · rcases jsonToken_isJson_iff hplain with ⟨token, htoken, _, hiff⟩
    have hwritten : jsonToken (some [(.text "a", .list [.null, .bool true])]) =
        .ok "\x7b\"a\":[null,true]\x7d" := by cbv
    rw [Except.ok.inj (htoken.symm.trans hwritten)] at hiff
    refine ⟨_, hplain, hwritten, hiff.mpr ?_⟩
    rw [Json.allFinite_dict, List.forall_mem_singleton, Json.allFinite_list]
    refine List.forall_mem_cons.mpr ⟨?_, List.forall_mem_singleton.mpr ?_⟩ <;>
      exact fun x hx => by cases hx

end Capabilities

end ServerLaunch
